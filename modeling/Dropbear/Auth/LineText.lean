/-
# A line of the authorized_keys file as a function of its text

The scanning phases of `checkpubkey_line` look only at the bytes that are left in the
line.  Where each of them stops is computed here from the text.  The only ways to end the
process on a line are to find nothing but blanks in it, and to compare the key with a blob
that is too short for the name it should begin with.
-/

import Dropbear.Auth.AuthorizedKeys
import Dropbear.Auth.OptionsText
import Dropbear.Buffer.Consume

namespace Dropbear.Auth

open Program Signkey

def isBlank (c : UInt8) : Bool := c = 32 ∨ c = 9

/-- Only a space ends the key and what follows it. -/
def inField (c : UInt8) : Bool := c ≠ 32

variable {c : UInt8}

theorem isBlank_iff : isBlank c ↔ c = 32 ∨ c = 9 := decide_eq_true_iff

theorem inField_iff : inField c ↔ c ≠ 32 := decide_eq_true_iff

theorem length_rest_le_max (buf : Buffer) : buf.rest.length ≤ bufMaxSize := by
  have := buf.len_le_max
  rw [Buffer.length_rest]
  omega

/-! ## Where the loops stop -/

/-- The number of bytes in front of the first blank that is outside double quotes. -/
def optionsEnd : (quoted : Bool) → Bytes → Nat
  | _, [] => 0
  | quoted, c :: rest =>
    if !quoted ∧ isBlank c then 0
    else optionsEnd (if c = 34 then !quoted else quoted) rest + 1

theorem optionsEnd_le (quoted : Bool) (text : Bytes) : optionsEnd quoted text ≤ text.length := by
  induction text generalizing quoted with
  | nil => exact Nat.le_refl _
  | cons c rest ih =>
    rw [optionsEnd]
    split
    · exact Nat.zero_le _
    · exact Nat.succ_le_succ (ih _)

variable {line : Buffer}

theorem bufDecrpos_skip_one {tail : Bytes} (rest : line.rest = c :: tail) :
    bufDecrpos (line.skip 1) 1 = .ok (line.skip 0) := by
  have pos : (line.skip 1).pos = line.pos + 1 :=
    Buffer.pos_skip line (by rw [rest, List.length_cons]; omega)
  rw [bufDecrpos, if_neg (by omega)]
  apply congrArg Except.ok
  apply Buffer.ext
  · rfl
  · rfl
  · rw [Buffer.skip_zero]
    change (line.skip 1).pos - 1 = line.pos
    omega

variable {n : Nat}

theorem skipBlanks_eq (enough : line.rest.length ≤ n) :
    skipBlanks n line =
      .ok (if (line.rest.dropWhile isBlank).head? = some 35
        then (true, line.skip ((line.rest.takeWhile isBlank).length + 1))
        else (false, line.skip (line.rest.takeWhile isBlank).length)) := by
  induction n generalizing line with
  | zero =>
    have nothing : line.rest = [] := List.eq_nil_of_length_eq_zero (Nat.le_zero.1 enough)
    rw [nothing]
    exact congrArg (fun line => Except.ok (false, line)) line.skip_zero.symm
  | succ n ih =>
    rw [skipBlanks]
    cases rest : line.rest with
    | nil =>
      rw [ifMore_of_nil rest]
      exact congrArg (fun line => Except.ok (false, line)) line.skip_zero.symm
    | cons c tail =>
      rw [ifMore_of_cons rest]
      dsimp only
      have behind := Buffer.rest_skip_one rest
      by_cases isBlank : Auth.isBlank c
      · rw [if_pos (isBlank_iff.1 isBlank),
          ih (by rw [behind]; rw [rest, List.length_cons] at enough; omega), behind,
          List.dropWhile_cons_of_pos isBlank, List.takeWhile_cons_of_pos isBlank,
          List.length_cons]
        simp only [Buffer.skip_skip, Nat.add_comm 1, Nat.add_assoc]
      · rw [if_neg (fun either => isBlank (isBlank_iff.2 either)),
          List.dropWhile_cons_of_neg isBlank, List.takeWhile_cons_of_neg isBlank,
          List.head?_cons]
        by_cases comment : c = 35
        · rw [if_pos comment, if_pos (congrArg some comment)]
          rfl
        · rw [if_neg comment, if_neg (fun same => comment (Option.some_inj.1 same)),
            bufDecrpos_skip_one rest]
          rfl

theorem Buffer.skip_one_of_nil (nothing : line.rest = []) : line.skip 1 = line := by
  apply Buffer.ext
  · rfl
  · rfl
  · have := congrArg List.length nothing
    rw [Buffer.length_rest, List.length_nil] at this
    have := line.pos_le_len
    change min (line.pos + 1) line.len = line.pos
    omega

/-- `escape` is clear whenever a double quote is looked at. -/
theorem scanOptions_eq {len : Nat} {quoted escape : Bool} (enough : line.rest.length ≤ n) :
    scanOptions n quoted escape len line =
      .ok (len + optionsEnd quoted line.rest, line.skip (optionsEnd quoted line.rest + 1)) := by
  induction n generalizing line quoted escape len with
  | zero =>
    have nothing : line.rest = [] := List.eq_nil_of_length_eq_zero (Nat.le_zero.1 enough)
    rw [nothing, optionsEnd, Nat.zero_add, Buffer.skip_one_of_nil nothing]
    rfl
  | succ n ih =>
    rw [scanOptions]
    cases rest : line.rest with
    | nil =>
      rw [ifMore_of_nil rest, optionsEnd, Nat.zero_add,
        Buffer.skip_one_of_nil rest]
      rfl
    | cons c tail =>
      rw [ifMore_of_cons rest, optionsEnd]
      dsimp only
      have behind := Buffer.rest_skip_one rest
      by_cases blank : !quoted ∧ (c = 32 ∨ c = 9)
      · rw [if_pos blank, if_pos (blank.imp_right isBlank_iff.2)]
        rfl
      · have toggled : (if (!(!escape && decide (c = 92))) = true ∧ c = 34 then !quoted
            else quoted) = if c = 34 then !quoted else quoted := by
          by_cases quote : c = 34
          · have clear : (!(!escape && decide (c = 92))) = true := by
              rw [quote, show decide ((34 : UInt8) = 92) = false from rfl, Bool.and_false,
                Bool.not_false]
            rw [if_pos quote, if_pos ⟨clear, quote⟩]
          · rw [if_neg quote, if_neg fun both => quote both.2]
        rw [if_neg blank, if_neg (mt (And.imp_right isBlank_iff.1) blank), toggled,
          ih (by rw [behind]; rw [rest, List.length_cons] at enough; omega), behind,
          Buffer.skip_skip]
        simp only [Nat.add_comm 1, Nat.add_assoc]

/-- The number of bytes in front of the next blank. -/
def fieldEnd (text : Bytes) : Nat := (text.takeWhile inField).length

theorem scanField_eq {len : Nat} (enough : line.rest.length ≤ n) :
    scanField n len line =
      .ok (len + fieldEnd line.rest, line.skip (fieldEnd line.rest + 1)) := by
  induction n generalizing line len with
  | zero =>
    have nothing : line.rest = [] := List.eq_nil_of_length_eq_zero (Nat.le_zero.1 enough)
    rw [nothing, fieldEnd, List.takeWhile_nil, List.length_nil, Nat.zero_add,
      Buffer.skip_one_of_nil nothing]
    rfl
  | succ n ih =>
    rw [scanField]
    cases rest : line.rest with
    | nil =>
      rw [ifMore_of_nil rest, fieldEnd, List.takeWhile_nil,
        List.length_nil, Nat.zero_add, Buffer.skip_one_of_nil rest]
      rfl
    | cons c tail =>
      rw [ifMore_of_cons rest]
      dsimp only
      have behind := Buffer.rest_skip_one rest
      by_cases space : c = 32
      · rw [if_pos space, fieldEnd,
          List.takeWhile_cons_of_neg (fun inside => inField_iff.1 inside space)]
        rfl
      · rw [if_neg space, ih (by rw [behind]; rw [rest, List.length_cons] at enough; omega),
          behind, Buffer.skip_skip, fieldEnd, fieldEnd,
          List.takeWhile_cons_of_pos (inField_iff.2 space), List.length_cons]
        simp only [Nat.add_comm 1, Nat.add_assoc]

/-- The information after the key, if it has no other characters. -/
def infoText (text : Bytes) : Option Bytes :=
  if text.takeWhile inField ≠ [] ∧ (text.takeWhile inField).all infoChar then
    some (text.takeWhile inField)
  else none

theorem scanInfo_eq {infolen : Nat} (enough : line.rest.length ≤ n) :
    scanInfo n infolen line =
      .ok (if (line.rest.takeWhile inField).all infoChar then infolen + fieldEnd line.rest
        else 0) := by
  induction n generalizing line infolen with
  | zero =>
    have nothing : line.rest = [] := List.eq_nil_of_length_eq_zero (Nat.le_zero.1 enough)
    rw [nothing]
    rfl
  | succ n ih =>
    rw [scanInfo]
    cases rest : line.rest with
    | nil =>
      rw [ifMore_of_nil rest]
      rfl
    | cons c tail =>
      rw [ifMore_of_cons rest]
      dsimp only
      have behind := Buffer.rest_skip_one rest
      by_cases space : c = 32
      · rw [if_pos space, fieldEnd,
          List.takeWhile_cons_of_neg (fun inside => inField_iff.1 inside space)]
        rfl
      · rw [if_neg space, fieldEnd, List.takeWhile_cons_of_pos (inField_iff.2 space),
          List.all_cons, List.length_cons]
        by_cases allowed : infoChar c
        · rw [if_neg (not_not_intro allowed), allowed, Bool.true_and,
            ih (by rw [behind]; rw [rest, List.length_cons] at enough; omega), behind, fieldEnd,
            Nat.add_assoc, Nat.add_comm 1]
        · rw [if_pos allowed, Bool.eq_false_iff.2 allowed, Bool.false_and, if_neg nofun]
          rfl

theorem fieldEnd_le (text : Bytes) : fieldEnd text ≤ text.length :=
  (List.takeWhile_prefix _).length_le

theorem pubkeyInfo_eq (line : Buffer) : pubkeyInfo line = .ok (infoText line.rest) := by
  have inside : (line.rest.takeWhile inField) <+: line.rest := List.takeWhile_prefix _
  have small : (line.rest.takeWhile inField).length ≤ bufMaxIncr :=
    Nat.le_trans inside.length_le (length_rest_le_max line)
  obtain ⟨pointed, read⟩ := bufGetptr_peek small inside
  rw [pubkeyInfo, scanInfo_eq (length_rest_le_left line), Except.ok_bind, infoText, Nat.zero_add,
    fieldEnd]
  by_cases allowed : (line.rest.takeWhile inField).all infoChar
  · rw [if_pos allowed]
    by_cases more : line.rest.takeWhile inField = []
    · rw [if_neg (by rw [more]; decide), if_neg fun both => both.1 more]
      rfl
    · rw [if_pos (List.length_pos_iff.2 more), if_pos ⟨more, allowed⟩, pointed, Except.ok_bind,
        read]
      rfl
  · rw [if_neg allowed, if_neg (by decide), if_neg fun both => allowed both.2]
    rfl

/-! ## The key type -/

/-- Whether the key type stands in front, with room for a blank and some base64 text. -/
def algoAt (algo text : Bytes) : Option Bool :=
  if text.length < algo.length + 3 then none else some (text.take algo.length = algo)

theorem algoHere_eq (line : Buffer) (algo : Bytes) :
    algoHere line algo = .ok (algoAt algo line.rest) := by
  have length := line.length_rest
  have used := line.pos_le_len
  rw [algoHere, algoAt]
  by_cases short : line.rest.length < algo.length + 3
  · rw [if_pos (by omega), if_pos short]
  · rw [if_neg (by omega), if_neg short]
    have taken : (line.rest.take algo.length).length = algo.length := by
      rw [List.length_take]
      omega
    have small : (line.rest.take algo.length).length ≤ bufMaxIncr :=
      Nat.le_trans (List.take_prefix _ _).length_le (length_rest_le_max line)
    obtain ⟨pointed, read⟩ := bufGetptr_peek small (List.take_prefix algo.length line.rest)
    rw [taken] at pointed read
    rw [pointed, Except.ok_bind, read]
    rfl

/-- Where the key type stands behind options: their text, and the number of bytes up to the
key type. -/
def behindOptions (algo text : Bytes) : Except Exit (Option (Option Bytes × Nat)) :=
  let blanks := (text.takeWhile isBlank).length
  match text.dropWhile isBlank with
  | [] => .error (.exit "Bad buf_getptr")
  | c :: rest =>
    if c = 35 then .ok none
    else
      let optionsLen := optionsEnd false (c :: rest)
      if algoAt algo ((c :: rest).drop (optionsLen + 1)) = some true then
        .ok (some (some ((c :: rest).take optionsLen), blanks + (optionsLen + 1)))
      else .ok none

theorem Buffer.peek_skip (line : Buffer) {j : Nat} (inside : n ≤ line.rest.length) :
    (line.skip j).peek line.pos n = .ok (line.rest.take n) := by
  have used := line.len_le_size
  rw [Buffer.length_rest] at inside
  have before := line.pos_le_len
  apply Buffer.peek_eq_ok.2
  refine ⟨?_, ?_⟩
  · change line.pos + n ≤ line.data.length
    omega
  · exact (line.take_drop_data (show line.pos + n ≤ line.len by omega)).symm

/-- The options text fits in the buffer that is made for it. -/
theorem exists_options_buf {text : Bytes} (short : text.length ≤ bufMaxSize) :
    ∃ new written, bufNew text.length = .ok new ∧ bufPutbytes new text = .ok written := by
  obtain ⟨new, made, data, len, pos⟩ := exists_bufNew text.length short
  have room : new.len + text.length ≤ new.data.length := by
    rw [data, List.length_replicate]
    omega
  obtain ⟨written, wrote, _⟩ := appends_bufPutbytes text new (pos.trans len.symm) room
  exact ⟨new, written, made, wrote⟩

theorem algoBehindOptions_eq (line : Buffer) (algo : Bytes) :
    algoBehindOptions line algo =
      (behindOptions algo line.rest).map (Option.map fun found => (found.1, line.skip found.2)) := by
  have whole : line.rest.takeWhile isBlank ++ line.rest.dropWhile isBlank = line.rest :=
    List.takeWhile_append_dropWhile
  have rest : (line.skip (line.rest.takeWhile isBlank).length).rest = line.rest.dropWhile isBlank :=
    calc (line.skip (line.rest.takeWhile isBlank).length).rest
        = line.rest.drop (line.rest.takeWhile isBlank).length := line.rest_skip _
      _ = (line.rest.takeWhile isBlank ++ line.rest.dropWhile isBlank).drop
            (line.rest.takeWhile isBlank).length := by rw [whole]
      _ = line.rest.dropWhile isBlank := List.drop_left
  rw [algoBehindOptions, skipBlanks_eq (length_rest_le_left line), Except.ok_bind, behindOptions]
  generalize line.rest.dropWhile isBlank = behind at rest
  generalize (line.rest.takeWhile isBlank).length = blanks at rest
  cases behind with
  | nil =>
    rw [List.head?_nil, if_neg nofun]
    dsimp only
    rw [if_neg nofun, bufGetptr_of_short (by rw [rest]; exact Nat.one_pos)]
    rfl
  | cons c tail =>
    rw [List.head?_cons]
    by_cases comment : c = 35
    · rw [if_pos (congrArg some comment)]
      dsimp only
      rw [if_pos rfl, if_pos comment]
      rfl
    · rw [if_neg fun same => comment (Option.some_inj.1 same)]
      dsimp only
      have inside : optionsEnd false (c :: tail) ≤ (line.skip blanks).rest.length := by
        rw [rest]
        exact optionsEnd_le _ _
      have pointed : bufGetptr (line.skip blanks) 1 = .ok (line.skip blanks).pos := by
        apply bufGetptr_eq_ok.2
        have more : (line.skip blanks).pos < (line.skip blanks).len :=
          Buffer.pos_lt_len_iff.2 (by rw [rest]; nofun)
        exact ⟨⟨by decide, more⟩, rfl⟩
      have taken : ((line.skip blanks).rest.take (optionsEnd false (c :: tail))).length =
          optionsEnd false (c :: tail) := by
        rw [List.length_take, Nat.min_eq_left inside]
      obtain ⟨new, written, made, wrote⟩ := exists_options_buf
        (Nat.le_trans (List.take_prefix (optionsEnd false (c :: tail)) _).length_le
          (length_rest_le_max (line.skip blanks)))
      rw [taken] at made
      rw [if_neg nofun, if_neg comment, pointed, Except.ok_bind,
        scanOptions_eq (length_rest_le_left _), Except.ok_bind, rest, Nat.zero_add]
      dsimp only
      rw [made, Except.ok_bind, Buffer.peek_skip _ inside, Except.ok_bind, wrote, Except.ok_bind,
        algoHere_eq, Except.ok_bind, Buffer.rest_skip, rest, Buffer.skip_skip]
      cases algoAt algo ((c :: tail).drop (optionsEnd false (c :: tail) + 1)) with
      | none => rfl
      | some here =>
        cases here with
        | true => rfl
        | false => rfl

/-- Where the key type stands: the options text in front of it, and the number of bytes up
to it. -/
def keyPlace (algo text : Bytes) : Except Exit (Option (Option Bytes × Nat)) :=
  match algoAt algo text with
  | none => .ok none
  | some true => .ok (some (none, 0))
  | some false => behindOptions algo text

theorem findAlgo_eq (line : Buffer) (algo : Bytes) :
    findAlgo line algo =
      (keyPlace algo line.rest).map (Option.map fun found => (found.1, line.skip found.2)) := by
  rw [findAlgo, algoHere_eq, Except.ok_bind, keyPlace]
  cases algoAt algo line.rest with
  | none => rfl
  | some here =>
    cases here with
    | true =>
      dsimp only
      rw [Except.map, Option.map_some, Buffer.skip_zero]
      rfl
    | false => exact algoBehindOptions_eq line algo

/-! ## The key -/

theorem length_of_base64Loop {outlen t y t' y' : Nat} {input out out' : Bytes}
    (fits : out.length ≤ outlen) (decoded : base64Loop outlen input t y out = some (t', y', out')) :
    out'.length ≤ outlen := by
  induction input generalizing t y out with
  | nil =>
    cases decoded
    exact fits
  | cons c rest ih =>
    rw [base64Loop] at decoded
    cases given : base64Value c with
    | none =>
      rw [given] at decoded
      exact ih fits decoded
    | some value =>
      rw [given] at decoded
      dsimp only at decoded
      split at decoded
      · split at decoded
        · cases decoded
        · apply ih _ decoded
          rw [List.length_append]
          change out.length + 3 ≤ outlen
          omega
      · exact ih fits decoded

theorem length_of_base64Decode {input out : Bytes} {outlen : Nat}
    (decoded : base64Decode input outlen = some out) : out.length ≤ outlen := by
  rw [base64Decode] at decoded
  cases loop : base64Loop outlen input 0 0 [] with
  | none =>
    rw [loop] at decoded
    cases decoded
  | some result =>
    obtain ⟨t, y, out'⟩ := result
    have fits := length_of_base64Loop (Nat.zero_le _) loop
    rw [loop] at decoded
    dsimp only at decoded
    split at decoded
    · cases decoded
      exact fits
    · split at decoded
      · cases decoded
      · split at decoded
        · cases decoded
        · cases decoded
          rw [List.length_append, List.length_take]
          omega

/-- The string that a blob begins with, if it has one. -/
def firstString (blob : Bytes) : Option Bytes :=
  if blob.length < 4 ∨ blob.length < 4 + ofBe (blob.take 4) then none
  else some ((blob.drop 4).take (ofBe (blob.take 4)))

/-- Whether the base64 text is that of the key, and the key of type `algo`. -/
def sameKey (keyblob algo text : Bytes) : Except Exit Bool :=
  if text = [] then .ok false
  else if base64Decode text (text.length * 2) = some keyblob then
    match firstString keyblob with
    | none => .error (.exit "Bad buf_getptr")
    | some name => .ok (name = algo)
  else .ok false

/-- Reading the name at the beginning of a blob. -/
theorem readName_eq {buf : Buffer} (atStart : buf.pos = 0) (algo : Bytes) :
    (do
      let (filealgolen, buf) ← bufGetint buf
      let ptr ← bufGetptr buf filealgolen
      let filealgo ← buf.peek ptr filealgolen
      pure (decide (filealgolen = algo.length ∧ filealgo = algo)) : Except Exit Bool) =
      match firstString buf.contents with
      | none => .error (.exit "Bad buf_getptr")
      | some name => .ok (name = algo) := by
  have rest : buf.rest = buf.contents := by rw [Buffer.rest, atStart, List.drop_zero]
  rw [← rest, firstString]
  by_cases short : buf.rest.length < 4
  · rw [if_pos (.inl short), bufGetint, bufGetptr_of_short short]
    rfl
  · have four : (buf.rest.take 4).length = 4 := by
      rw [List.length_take]
      omega
    rw [consumes_bufGetint four buf (List.take_prefix _ _), Except.ok_bind, four]
    dsimp only
    have behind : (buf.skip 4).rest = buf.rest.drop 4 := buf.rest_skip 4
    by_cases long : buf.rest.length < 4 + ofBe (buf.rest.take 4)
    · rw [if_pos (.inr long), bufGetptr_of_short (by rw [behind, List.length_drop]; omega)]
      rfl
    · have taken : ((buf.rest.drop 4).take (ofBe (buf.rest.take 4))).length =
          ofBe (buf.rest.take 4) := by
        rw [List.length_take, List.length_drop]
        omega
      have present : (buf.rest.drop 4).take (ofBe (buf.rest.take 4)) <+: (buf.skip 4).rest := by
        rw [behind]
        exact List.take_prefix _ _
      have small := Nat.le_trans present.length_le (length_rest_le_max (buf.skip 4))
      obtain ⟨pointed, read⟩ := bufGetptr_peek small present
      rw [taken] at pointed read
      rw [if_neg (not_or.2 ⟨short, long⟩), pointed, Except.ok_bind, read, Except.ok_bind]
      refine congrArg Except.ok (decide_eq_decide.2 ⟨And.right, fun same => ⟨?_, same⟩⟩)
      rw [← same, taken]

theorem cmpBase64Key_eq (short : line.rest.length * 2 ≤ bufMaxSize) (keyblob algo : Bytes) :
    cmpBase64Key keyblob algo line = sameKey keyblob algo line.rest := by
  have length := line.length_rest
  rw [cmpBase64Key, sameKey]
  dsimp only
  rw [← length]
  by_cases nothing : line.rest = []
  · rw [if_pos nothing, if_pos (List.length_eq_zero_iff.2 nothing)]
  · rw [if_neg nothing, if_neg fun zero => nothing (List.eq_nil_of_length_eq_zero zero)]
    obtain ⟨new, made, data, len, pos⟩ := exists_bufNew (line.rest.length * 2) short
    have small : line.rest.length ≤ bufMaxIncr := length_rest_le_max line
    obtain ⟨pointed, read⟩ := bufGetptr_peek small (List.prefix_refl _)
    have writable : bufGetwriteptr new new.data.length = .ok 0 := by
      apply bufGetwriteptr_eq_ok.2
      refine ⟨⟨?_, ?_⟩, pos.symm⟩
      · rw [data, List.length_replicate]
        exact short
      · rw [pos]
        omega
    rw [made, Except.ok_bind, pointed, Except.ok_bind, read, Except.ok_bind, writable,
      Except.ok_bind]
    cases decoding : base64Decode line.rest (line.rest.length * 2) with
    | none =>
      rw [if_neg nofun]
      rfl
    | some decoded =>
      have fits := length_of_base64Decode decoding
      have room : 0 + decoded.length ≤ new.data.length := by
        rw [data, List.length_replicate]
        omega
      obtain ⟨stored, poked, data', len', pos'⟩ := new.exists_poke 0 decoded room
      have small' : decoded.length ≤ bufMaxIncr := Nat.le_trans fits short
      have room' : stored.len + decoded.length ≤ stored.data.length := by
        rw [len', len, data', length_overwrite room]
        exact room
      obtain ⟨grown, longer, data'', len'', pos''⟩ :=
        exists_bufIncrlen stored decoded.length small' room'
      have nothing : new.contents = [] :=
        List.eq_nil_of_length_eq_zero (by rw [new.length_contents, len])
      have held : grown.contents = decoded := by
        have appended := Buffer.contents_append new grown decoded
          (by rw [data'', data', len]) (by rw [len'', len']) (by rw [len]; exact room)
        rw [appended, nothing, List.nil_append]
      dsimp only
      rw [poked, Except.ok_bind, longer, Except.ok_bind, held]
      by_cases same : decoded = keyblob
      · subst same
        rw [if_neg (by simp), if_pos rfl, readName_eq (pos''.trans (pos'.trans pos)), held]
      · rw [if_pos (.inr same), if_neg fun both => same (Option.some_inj.1 both)]
        rfl

/-- The blank behind the key type, and the key.  The answer has the information that
follows the key. -/
def keyBehind (keyblob algo : Bytes) : Bytes → Except Exit (Option (Option Bytes))
  | [] => .error (.exit "Bad buf_getbyte")
  | c :: text =>
    if c ≠ 32 then .ok none
    else
      (sameKey keyblob algo (text.takeWhile inField)).map fun same =>
        if same then some (infoText (text.drop (fieldEnd text + 1))) else none

/-- The line is cut behind a field. -/
theorem exists_cut {j k : Nat} (inside : k ≤ line.rest.length) :
    ∃ moved cut, bufSetpos (line.skip j) line.pos = .ok moved ∧ moved.pos = line.pos ∧
      bufSetlen moved (line.pos + k) = .ok cut ∧ cut.rest = line.rest.take k := by
  rw [Buffer.length_rest] at inside
  have used := line.pos_le_len
  have size := line.len_le_size
  obtain ⟨moved, isMoved, data, len, pos⟩ := exists_bufSetpos (line.skip j) line.pos used
  have room : line.pos + k ≤ moved.data.length := by
    rw [data]
    change line.pos + k ≤ line.data.length
    omega
  obtain ⟨cut, isCut, data', len', pos'⟩ := exists_bufSetlen moved (line.pos + k) room
  refine ⟨moved, cut, isMoved, pos, isCut, ?_⟩
  have atPos : cut.pos = line.pos := by
    rw [pos', pos]
    omega
  rw [Buffer.rest, Buffer.contents, len', atPos, data', data, List.drop_take,
    Nat.add_sub_cancel_left]
  exact line.take_drop_data (show line.pos + k ≤ line.len by omega)

theorem cmpLineKey_eq (short : line.rest.length * 2 ≤ bufMaxSize) (algo keyblob : Bytes) :
    cmpLineKey line algo keyblob = keyBehind keyblob algo line.rest := by
  rw [cmpLineKey]
  cases rest : line.rest with
  | nil =>
    have used : ¬ line.pos < line.len := fun more => Buffer.pos_lt_len_iff.1 more rest
    rw [bufGetbyte, dif_pos (Nat.le_of_not_lt used)]
    rfl
  | cons c text =>
    rw [bufGetbyte_of_rest rest, Except.ok_bind, keyBehind]
    dsimp only
    split
    · rfl
    · have behind := Buffer.rest_skip_one rest
      have inside := fieldEnd_le text
      rw [scanField_eq (length_rest_le_left _), Except.ok_bind, behind, Nat.zero_add]
      dsimp only
      have inside' : fieldEnd text ≤ (line.skip 1).rest.length := by
        rw [behind]
        exact inside
      obtain ⟨moved, cut, isMoved, pos, isCut, cutRest⟩ := exists_cut inside'
      have field : text.take (fieldEnd text) = text.takeWhile inField :=
        (List.prefix_iff_eq_take.1 (List.takeWhile_prefix _)).symm
      rw [behind, field] at cutRest
      have short' : cut.rest.length * 2 ≤ bufMaxSize := by
        rw [rest, List.length_cons] at short
        rw [cutRest]
        have : (text.takeWhile inField).length ≤ text.length := inside
        omega
      rw [pubkeyInfo_eq, Except.ok_bind, isMoved, Except.ok_bind, pos, isCut, Except.ok_bind,
        cmpBase64Key_eq short', cutRest, Buffer.rest_skip, behind]
      cases sameKey keyblob algo (text.takeWhile inField) with
      | error failure => rfl
      | ok same => rfl

/-- The key type stands at the beginning, or behind blanks and options. -/
theorem keyPlace_cases {algo text : Bytes} {options : Option Bytes} {k : Nat}
    (found : keyPlace algo text = .ok (some (options, k))) :
    algoAt algo (text.drop k) = some true ∧ (options = none ∧ k = 0 ∨
      ∃ behind, behind = text.dropWhile isBlank ∧
        options = some (behind.take (optionsEnd false behind)) ∧
        text.drop k = behind.drop (optionsEnd false behind + 1)) := by
  rw [keyPlace] at found
  split at found
  · cases found
  case _ here =>
    cases found
    exact ⟨here, .inl ⟨rfl, rfl⟩⟩
  · rw [behindOptions] at found
    have whole : text.takeWhile isBlank ++ text.dropWhile isBlank = text :=
      List.takeWhile_append_dropWhile
    dsimp only at found
    generalize text.takeWhile isBlank = blanks at found whole
    generalize text.dropWhile isBlank = behind at found whole ⊢
    split at found
    · cases found
    case _ c rest =>
      split at found
      · cases found
      · split at found
        case _ here =>
          cases found
          rw [← whole, ← List.drop_drop, List.drop_left]
          exact ⟨here, .inr ⟨_, rfl, rfl, rfl⟩⟩
        case _ => cases found

/-- What a line of permitted length, without zero bytes, authorizes. -/
def lineOptions (parse : ParseOptions) (algo keyblob text : Bytes) :
    Except Exit (Option PubKeyOptions) := do
  match ← keyPlace algo text with
  | none => pure none
  | some (options, k) =>
    match ← keyBehind keyblob algo (text.drop (k + algo.length)) with
    | none => pure none
    | some info => pure ((parse options).map (fun parsed => { parsed with infoEnv := info }))

/-- **A line as a function of its text.** -/
theorem checkpubkeyLine_eq (parse : ParseOptions) (line : Buffer) (algo keyblob : Bytes) :
    checkpubkeyLine parse line algo keyblob =
      if line.len < minAuthkeysLine ∨ line.len > maxAuthkeysLine then .ok none
      else if 0 ∈ line.contents then .ok none
      else lineOptions parse algo keyblob line.rest := by
  rw [checkpubkeyLine]
  split
  · rfl
  case _ sized =>
    split
    · rfl
    · rw [findAlgo_eq, lineOptions]
      cases place : keyPlace algo line.rest with
      | error failure => rfl
      | ok found =>
        cases found with
        | none => rfl
        | some found =>
          obtain ⟨options, k⟩ := found
          have here := (keyPlace_cases place).1
          dsimp only [Except.map, Option.map_some]
          rw [Except.ok_bind, Except.ok_bind]
          dsimp only
          have room : algo.length + 3 ≤ (line.skip k).rest.length := by
            rw [algoAt] at here
            split at here
            · cases here
            · rw [Buffer.rest_skip]
              omega
          have small : algo.length ≤ bufMaxIncr :=
            Nat.le_trans (by omega) (length_rest_le_max (line.skip k))
          have short : ((line.skip k).skip algo.length).rest.length * 2 ≤ bufMaxSize := by
            rw [Buffer.skip_skip, Buffer.length_rest]
            change (line.len - _) * 2 ≤ _
            rw [minAuthkeysLine, maxAuthkeysLine] at sized
            rw [bufMaxSize]
            omega
          rewrite [bufIncrpos_eq_skip small (by omega), Except.ok_bind, cmpLineKey_eq short,
            Buffer.skip_skip, Buffer.rest_skip]
          rfl

end Dropbear.Auth
