/-
# Which lines can be examined, and how options are split off

`checkpubkey_line` ends the process on a line that has nothing but blanks, and where the
key is that of the line but does not begin with a name.  On all other lines it returns.

Where the options in front of a key end is found by counting double quotes, whether they
are escaped or not.  The parser of the options does not count escaped ones, so the two
agree only where the escaped ones make no difference.
-/

import Dropbear.Auth.LineText
import Dropbear.Auth.OptionsGrammar

namespace Dropbear.Auth

open Program Signkey

/-! ## Lines that can be examined -/

/-- The base64 text that a line has for its key. -/
def KeyText (algo line text : Bytes) : Prop :=
  ∃ options k tail, keyPlace algo line = .ok (some (options, k)) ∧
    line.drop (k + algo.length) = 32 :: tail ∧ text = tail.takeWhile inField ∧ text ≠ []

/-- The line has something but blanks, and if its key is the one to compare with, then that
begins with a name. -/
structure Examinable (algo keyblob line : Bytes) : Prop where
  notBlank : algoAt algo line = some false → ∃ c ∈ line, ¬ isBlank c
  named : ∀ text, KeyText algo line text →
    base64Decode text (text.length * 2) = some keyblob → firstString keyblob ≠ none

variable {failure : Exit} {algo line : Bytes}

theorem behindOptions_eq_error :
    behindOptions algo line = .error failure ↔
      failure = .exit "Bad buf_getptr" ∧ ∀ c ∈ line, isBlank c := by
  rw [← List.dropWhile_eq_nil_iff, behindOptions]
  dsimp only
  cases line.dropWhile isBlank with
  | nil =>
    constructor
    · rintro ⟨⟩
      exact ⟨rfl, rfl⟩
    · rintro ⟨rfl, _⟩
      rfl
  | cons c rest =>
    dsimp only
    constructor
    · intro failed
      split at failed
      · cases failed
      · split at failed <;> cases failed
    · rintro ⟨_, ⟨⟩⟩

theorem sameKey_eq_error {keyblob algo text : Bytes} :
    sameKey keyblob algo text = .error failure ↔
      failure = .exit "Bad buf_getptr" ∧ text ≠ [] ∧
        base64Decode text (text.length * 2) = some keyblob ∧ firstString keyblob = none := by
  rw [sameKey]
  split
  case _ nothing => exact iff_of_false (by rintro ⟨⟩) fun failed => failed.2.1 nothing
  case _ something =>
    split
    case _ same =>
      cases firstString keyblob with
      | none =>
        constructor
        · rintro ⟨⟩
          exact ⟨rfl, something, same, rfl⟩
        · rintro ⟨rfl, _⟩
          rfl
      | some name => exact iff_of_false (by rintro ⟨⟩) (by rintro ⟨_, _, _, ⟨⟩⟩)
    case _ other => exact iff_of_false (by rintro ⟨⟩) fun failed => other failed.2.2.1

theorem keyBehind_eq_error {keyblob algo rest : Bytes} (more : rest ≠ []) :
    keyBehind keyblob algo rest = .error failure ↔
      ∃ tail, rest = 32 :: tail ∧
        sameKey keyblob algo (tail.takeWhile inField) = .error failure := by
  cases rest with
  | nil => exact absurd rfl more
  | cons c text =>
    rw [keyBehind]
    by_cases space : c = 32
    · subst space
      rw [if_neg (not_not.2 rfl)]
      constructor
      · intro failed
        refine ⟨text, rfl, ?_⟩
        cases compared : sameKey keyblob algo (text.takeWhile inField) with
        | error other =>
          rw [compared] at failed
          cases failed
          rfl
        | ok same =>
          rw [compared] at failed
          cases failed
      · rintro ⟨tail, same, failed⟩
        cases same
        rw [failed]
        rfl
    · rw [if_pos space]
      constructor
      · rintro ⟨⟩
      · rintro ⟨tail, same, _⟩
        exact absurd (List.cons.inj same).1 space

/-- The name is followed by something. -/
theorem behind_ne_nil {options : Option Bytes} {k : Nat}
    (found : keyPlace algo line = .ok (some (options, k))) :
    line.drop (k + algo.length) ≠ [] := by
  have here := (keyPlace_cases found).1
  rw [algoAt] at here
  split at here
  · cases here
  case _ room =>
    intro nothing
    have := List.drop_eq_nil_iff.1 nothing
    rw [List.length_drop] at room
    omega

theorem keyPlace_eq_error :
    keyPlace algo line = .error failure ↔
      algoAt algo line = some false ∧ behindOptions algo line = .error failure := by
  rw [keyPlace]
  cases algoAt algo line with
  | none => exact iff_of_false (by rintro ⟨⟩) (by rintro ⟨⟨⟩, _⟩)
  | some here =>
    cases here with
    | true => exact iff_of_false (by rintro ⟨⟩) (by rintro ⟨⟨⟩, _⟩)
    | false => exact ⟨fun failed => ⟨rfl, failed⟩, And.right⟩

/-- The two ways to end the process on a line. -/
theorem lineOptions_eq_error (parse : ParseOptions) {algo keyblob line : Bytes} :
    lineOptions parse algo keyblob line = .error failure ↔
      keyPlace algo line = .error failure ∨
        ∃ options k, keyPlace algo line = .ok (some (options, k)) ∧
          keyBehind keyblob algo (line.drop (k + algo.length)) = .error failure := by
  rw [lineOptions, Except.bind_eq_error]
  refine or_congr_right ⟨?_, ?_⟩
  · rintro ⟨_ | ⟨options, k⟩, found, failed⟩
    · cases failed
    · rcases Except.bind_eq_error.1 failed with failed | ⟨_ | info, _, failed⟩
      · exact ⟨options, k, found, failed⟩
      · cases failed
      · cases failed
  · rintro ⟨options, k, found, failed⟩
    exact ⟨some (options, k), found, Except.bind_eq_error.2 (.inl failed)⟩

theorem lineOptions_eq_ok (parse : ParseOptions) {algo keyblob line : Bytes} :
    (∃ result, lineOptions parse algo keyblob line = .ok result) ↔
      Examinable algo keyblob line := by
  constructor
  · rintro ⟨result, fine⟩
    refine ⟨?_, ?_⟩
    · intro elsewhere
      by_contra blanks
      push Not at blanks
      have failed : lineOptions parse algo keyblob line = .error (.exit "Bad buf_getptr") :=
        (lineOptions_eq_error parse).2 (.inl (keyPlace_eq_error.2
          ⟨elsewhere, behindOptions_eq_error.2 ⟨rfl, blanks⟩⟩))
      rw [fine] at failed
      cases failed
    · rintro text ⟨options, k, tail, found, behind, rfl, something⟩ same nameless
      have failed : lineOptions parse algo keyblob line = .error (.exit "Bad buf_getptr") :=
        (lineOptions_eq_error parse).2 (.inr ⟨options, k, found,
          (keyBehind_eq_error (behind_ne_nil found)).2
            ⟨tail, behind, sameKey_eq_error.2 ⟨rfl, something, same, nameless⟩⟩⟩)
      rw [fine] at failed
      cases failed
  · intro examinable
    cases examined : lineOptions parse algo keyblob line with
    | ok result => exact ⟨result, rfl⟩
    | error failure =>
      rcases (lineOptions_eq_error parse).1 examined with failed | ⟨options, k, found, failed⟩
      · obtain ⟨elsewhere, failed⟩ := keyPlace_eq_error.1 failed
        obtain ⟨c, isIn, other⟩ := examinable.notBlank elsewhere
        exact absurd ((behindOptions_eq_error.1 failed).2 c isIn) other
      · obtain ⟨tail, behind, failed⟩ := (keyBehind_eq_error (behind_ne_nil found)).1 failed
        obtain ⟨_, something, same, nameless⟩ := sameKey_eq_error.1 failed
        exact absurd nameless
          (examinable.named _ ⟨options, k, tail, found, behind, rfl, something⟩ same)

/-- A line that is looked at: its length is permitted, and it has no zero byte. -/
def Permitted (line : Buffer) : Prop :=
  minAuthkeysLine ≤ line.len ∧ line.len ≤ maxAuthkeysLine ∧ 0 ∉ line.contents

theorem checkpubkeyLine_of_permitted (parse : ParseOptions) {line : Buffer}
    (permitted : Permitted line) (algo keyblob : Bytes) :
    checkpubkeyLine parse line algo keyblob = lineOptions parse algo keyblob line.rest := by
  obtain ⟨notShort, notLong, noZero⟩ := permitted
  rw [checkpubkeyLine_eq, if_neg (by omega), if_neg noZero]

theorem checkpubkeyLine_of_not_permitted (parse : ParseOptions) {line : Buffer}
    (refused : ¬ Permitted line) (algo keyblob : Bytes) :
    checkpubkeyLine parse line algo keyblob = .ok none := by
  rw [checkpubkeyLine_eq]
  split
  · rfl
  case _ sized =>
    split
    · rfl
    case _ noZero => exact absurd ⟨by omega, by omega, noZero⟩ refused

/-- A line is either accepted or refused, whatever options stand in it, and the next line is
examined where it is refused. -/
structure Total (features : Features) (einval : Bool) (line : Buffer) (algo keyblob : Bytes) :
    Prop where
  returns : ∃ result,
    checkpubkeyLine (parsePubkeyOptions features einval) line algo keyblob = .ok result
  parses : ∀ optionsBuf, ∃ options,
    svrParsePubkeyOptionsBuf features einval optionsBuf = .ok options
  goesOn : ∀ n before file file', bufGetline before file = .ok (some line, file') →
    checkpubkeyLine (parsePubkeyOptions features einval) line algo keyblob = .ok none →
      checkpubkeyLoop (parsePubkeyOptions features einval) algo keyblob (n + 1) before file =
        checkpubkeyLoop (parsePubkeyOptions features einval) algo keyblob n line file'

/-- **A line that is looked at does not end the process exactly if it can be examined.** -/
theorem total_iff (features : Features) (einval : Bool) (line : Buffer) (algo keyblob : Bytes) :
    Total features einval line algo keyblob ↔
      (Permitted line → Examinable algo keyblob line.rest) := by
  constructor
  · intro total permitted
    obtain ⟨result, returned⟩ := total.returns
    rw [checkpubkeyLine_of_permitted _ permitted] at returned
    exact (lineOptions_eq_ok _).1 ⟨result, returned⟩
  · intro examinable
    refine ⟨?_, ?_, ?_⟩
    · by_cases permitted : Permitted line
      · rw [checkpubkeyLine_of_permitted _ permitted]
        exact (lineOptions_eq_ok _).2 (examinable permitted)
      · exact ⟨none, checkpubkeyLine_of_not_permitted _ permitted _ _⟩
    · intro optionsBuf
      cases optionsBuf with
      | none => exact ⟨_, rfl⟩
      | some optionsBuf => exact ⟨_, svrParsePubkeyOptionsBuf_eq features einval optionsBuf⟩
    · intro n before file file' read refused
      rw [checkpubkeyLoop, read, Except.ok_bind]
      dsimp only
      rw [refused]
      rfl

/-- A line of blanks that is long enough for a key of type `ssh-ed25519`. -/
def blankLine : Buffer := .ofBytes (List.replicate 14 32) (by decide)

/-- **A line of blanks ends the process.** -/
theorem total_blankLine :
    checkpubkeyLine (parsePubkeyOptions ⟨true, false, true⟩ false) blankLine
        (signkeyNameFromType .ed25519) (wireString (ascii "ssh-ed25519")) =
          .error (.exit "Bad buf_getptr") ∧
      ¬ Total ⟨true, false, true⟩ false blankLine (signkeyNameFromType .ed25519)
        (wireString (ascii "ssh-ed25519")) := by
  have failed : checkpubkeyLine (parsePubkeyOptions ⟨true, false, true⟩ false) blankLine
      (signkeyNameFromType .ed25519) (wireString (ascii "ssh-ed25519")) =
        .error (.exit "Bad buf_getptr") := by decide +kernel
  refine ⟨failed, fun total => ?_⟩
  obtain ⟨result, returned⟩ := total.returns
  rw [failed] at returned
  cases returned

/-! ## Where options end -/

/-- Every blank stands behind an odd number of quotes, and there is an even number of them. -/
structure QuotesPaired (text : Bytes) : Prop where
  even : text.count 34 % 2 = 0
  inside : ∀ front c back, text = front ++ c :: back → isBlank c → front.count 34 % 2 = 1

/-- The same, where a quote may be open at the beginning. -/
theorem optionsEnd_append_iff {quoted : Bool} {text more : Bytes} {b : UInt8}
    (isBlank_b : isBlank b) :
    optionsEnd quoted (text ++ b :: more) = text.length ↔
      (quoted.toNat + text.count 34) % 2 = 0 ∧
        ∀ front c back, text = front ++ c :: back → isBlank c →
          (quoted.toNat + front.count 34) % 2 = 1 := by
  induction text generalizing quoted with
  | nil =>
    rw [List.nil_append, optionsEnd]
    cases quoted with
    | false => simp [isBlank_b]
    | true => simp
  | cons c rest ih =>
    rw [List.cons_append, optionsEnd]
    by_cases stops : !quoted ∧ isBlank c
    · rw [if_pos stops]
      obtain ⟨outside, isBlank_c⟩ := stops
      refine iff_of_false (by rintro ⟨⟩) fun paired => ?_
      have odd := paired.2 [] c rest rfl isBlank_c
      cases quoted with
      | false => cases odd
      | true => cases outside
    · rw [if_neg stops, List.length_cons, Nat.add_right_cancel_iff, ih]
      have toggled : ∀ front : Bytes,
          ((if c = 34 then !quoted else quoted).toNat + front.count 34) % 2 =
            (quoted.toNat + (c :: front).count 34) % 2 := by
        intro front
        rw [List.count_cons]
        by_cases quote : c = 34
        · rw [if_pos quote, if_pos (beq_iff_eq.2 quote)]
          cases quoted <;> simp only [Bool.not_true, Bool.not_false, Bool.toNat_true,
            Bool.toNat_false] <;> omega
        · rw [if_neg quote, if_neg fun same => quote (beq_iff_eq.1 same), Nat.add_zero]
      simp only [toggled]
      refine and_congr_right fun _ => ⟨?_, ?_⟩
      · intro inside front d back isText isBlank_d
        cases front with
        | nil =>
          cases isText
          cases quoted with
          | false => exact absurd ⟨rfl, isBlank_d⟩ stops
          | true => rfl
        | cons e front =>
          obtain ⟨rfl, isRest⟩ := List.cons.inj isText
          exact inside front d back isRest isBlank_d
      · rintro inside front d back rfl isBlank_d
        exact inside (c :: front) d back rfl isBlank_d

theorem optionsEnd_eq_iff {text more : Bytes} {b : UInt8} (isBlank_b : isBlank b) :
    optionsEnd false (text ++ b :: more) = text.length ↔ QuotesPaired text := by
  rw [optionsEnd_append_iff isBlank_b]
  simp only [Bool.toNat_false, Nat.zero_add]
  exact ⟨fun paired => ⟨paired.1, paired.2⟩, fun paired => ⟨paired.even, paired.inside⟩⟩

/-- The first letters of the options, and the comma. -/
def optionHeads : Bytes := ascii ",nrcpv"

variable {c : UInt8}

theorem head_of_sameIgnoringCase {rest name : Bytes} (same : sameIgnoringCase (c :: rest) name)
    (listed : (name.map toLower).headD 0 ∈ optionHeads) : toLower c ∈ optionHeads := by
  rw [← of_decide_eq_true same] at listed
  exact listed

theorem head_of_spells {rest : Bytes} {item : Item} (spells : Spells Numeral (c :: rest) item) :
    toLower c ∈ optionHeads := by
  have keyworded : ∀ {keyword value name : Bytes}, sameIgnoringCase keyword name →
      c :: rest = keyword ++ value → name ≠ [] → (name.map toLower).headD 0 ∈ optionHeads →
        toLower c ∈ optionHeads := by
    intro keyword value name same isText nonempty listed
    cases keyword with
    | nil => exact absurd (List.map_eq_nil_iff.1 (of_decide_eq_true same).symm) nonempty
    | cons d keyword =>
      cases isText
      exact head_of_sameIgnoringCase same listed
  generalize isText : c :: rest = text at spells
  cases spells with
  | nothing => cases isText
  | @flag _ name same =>
    subst isText
    cases name <;> exact head_of_sameIgnoringCase same (by decide)
  | command same _ => exact keyworded same isText (by decide) (by decide)
  | permitopen same _ _ => exact keyworded same isText (by decide) (by decide)
  | permitlisten same _ _ _ => exact keyworded same isText (by decide) (by decide)

theorem head_of_denotes {rest : Bytes} {items : List Item} (denotes : Denotes Numeral (c :: rest) items) :
    toLower c ∈ optionHeads := by
  generalize isText : c :: rest = text at denotes
  induction denotes using Denotes.induction with
  | single text item spells =>
    subst isText
    exact head_of_spells spells
  | cons text item texts items spells _ _ =>
    cases text with
    | nil =>
      cases isText
      decide
    | cons d front =>
      cases isText
      exact head_of_spells spells

/-- No option begins like a blank, a comment or a key type. -/
theorem not_mem_of_optionHead (isHead : toLower c ∈ optionHeads) :
    c ∉ ascii " \t#se" := by
  intro other
  have cases : ∀ d ∈ ascii " \t#se", toLower d ∉ optionHeads := by decide +kernel
  exact cases c other isHead

theorem head_signkeyName (type : SignkeyType) :
    (signkeyNameFromType type).headD 32 ∈ ascii "se" := by
  cases type <;> decide

/-- A line that begins with an option has its key type only behind options. -/
theorem keyPlace_of_optionHead {rest : Bytes} (isHead : toLower c ∈ optionHeads)
    (type : SignkeyType) (room : (signkeyNameFromType type).length + 3 ≤ (c :: rest).length) :
    keyPlace (signkeyNameFromType type) (c :: rest) =
      let optionsLen := optionsEnd false (c :: rest)
      if algoAt (signkeyNameFromType type) ((c :: rest).drop (optionsLen + 1)) = some true then
        .ok (some (some ((c :: rest).take optionsLen), optionsLen + 1))
      else .ok none := by
  have other := not_mem_of_optionHead isHead
  have elsewhere : algoAt (signkeyNameFromType type) (c :: rest) = some false := by
    rw [algoAt, if_neg (by omega)]
    refine congrArg some (decide_eq_false fun same => other ?_)
    have isName := head_signkeyName type
    generalize signkeyNameFromType type = algo at same isName
    cases algo with
    | nil => exact absurd isName (by decide)
    | cons d name =>
      rw [(List.cons.inj same).1]
      exact List.mem_append_right (ascii " \t#") isName
  have notBlank : isBlank c = false := by
    refine decide_eq_false ?_
    rintro (rfl | rfl) <;> exact other (by decide)
  have notComment : c ≠ 35 := by
    rintro rfl
    exact other (by decide)
  rw [keyPlace, elsewhere]
  dsimp only
  rw [behindOptions, List.takeWhile_cons_of_neg (by simp [notBlank]),
    List.dropWhile_cons_of_neg (by simp [notBlank])]
  dsimp only
  rw [if_neg notComment, List.length_nil, Nat.zero_add]

/-- A line with a text, a blank and a key of the type, followed by the end of the line or a
space. -/
structure KeyLine (line : Buffer) (text : Bytes) (b : UInt8) (type : SignkeyType)
    (keyblob b64 tail : Bytes) : Prop where
  contents : line.contents = text ++ b :: (signkeyNameFromType type ++ 32 :: (b64 ++ tail))
  atStart : line.pos = 0
  blank : isBlank b
  plain : ∀ c ∈ b64, c ≠ 32 ∧ c ≠ 0
  ends : tail.headD 32 = 32 ∧ 0 ∉ tail
  key : base64Decode b64 (b64.length * 2) = some keyblob
  named : firstString keyblob = some (signkeyNameFromType type)

/-- The options are split off in front of the blank, and the key is accepted with them and
with the information behind the key. -/
structure Splits (features : Features) (einval : Bool) (line : Buffer) (text : Bytes)
    (type : SignkeyType) (keyblob tail : Bytes) (parsed : PubKeyOptions) : Prop where
  split : findAlgo line (signkeyNameFromType type) =
    .ok (some (some text, line.skip (text.length + 1)))
  accepted : checkpubkeyLine (parsePubkeyOptions features einval) line (signkeyNameFromType type)
    keyblob = .ok (some { parsed with infoEnv := infoText (tail.drop 1) })

/-- Options in front of a key type are not empty. -/
theorem options_ne_nil {algo line options : Bytes} {k : Nat}
    (found : keyPlace algo line = .ok (some (some options, k))) : options ≠ [] := by
  rw [keyPlace] at found
  split at found
  · cases found
  · cases found
  · rw [behindOptions] at found
    dsimp only at found
    split at found
    · cases found
    case _ c rest isRest =>
      have notBlank : ¬ isBlank c := by
        have stopped := List.head?_dropWhile_not isBlank line
        rw [isRest] at stopped
        exact Bool.eq_false_iff.1 stopped
      split at found
      · cases found
      · split at found
        · cases found
          rw [optionsEnd, if_neg fun stops => notBlank stops.2, List.take_succ_cons]
          exact List.cons_ne_nil _ _
        · cases found

/-- A line with a key type in it is long enough for one at its beginning. -/
theorem room_of_algoAt {algo front more : Bytes} {c b : UInt8}
    (behind : algoAt algo more = some true) :
    algo.length + 3 ≤ (c :: (front ++ b :: more)).length := by
  rw [algoAt] at behind
  split at behind
  · cases behind
  · simp only [List.length_cons, List.length_append]
    omega

section KeyLine

variable {line : Buffer} {text : Bytes} {b : UInt8} {type : SignkeyType} {keyblob b64 tail : Bytes}

theorem KeyLine.rest (keyLine : KeyLine line text b type keyblob b64 tail) :
    line.rest = text ++ b :: (signkeyNameFromType type ++ 32 :: (b64 ++ tail)) := by
  rw [Buffer.rest, keyLine.atStart, List.drop_zero, keyLine.contents]

theorem KeyLine.length_b64 (keyLine : KeyLine line text b type keyblob b64 tail) :
    2 ≤ b64.length := by
  have fits := length_of_base64Decode keyLine.key
  have named := keyLine.named
  rw [firstString] at named
  split at named
  · cases named
  · omega

/-- The key type is found behind the blank. -/
theorem KeyLine.algoAt (keyLine : KeyLine line text b type keyblob b64 tail) :
    algoAt (signkeyNameFromType type) (signkeyNameFromType type ++ 32 :: (b64 ++ tail)) =
      some true := by
  have long := keyLine.length_b64
  rw [Auth.algoAt, if_neg, List.take_left, decide_eq_true rfl]
  simp only [List.length_append, List.length_cons]
  omega

theorem KeyLine.keyBehind (keyLine : KeyLine line text b type keyblob b64 tail) :
    keyBehind keyblob (signkeyNameFromType type) (32 :: (b64 ++ tail)) =
      .ok (some (infoText (tail.drop 1))) := by
  have field : (b64 ++ tail).takeWhile inField = b64 := by
    rw [List.takeWhile_append_of_pos fun c isIn => inField_iff.2 (keyLine.plain c isIn).1]
    cases tail with
    | nil => rw [List.takeWhile_nil, List.append_nil]
    | cons c tail =>
      have space : c = 32 := keyLine.ends.1
      have stops : ¬ inField c := fun more => inField_iff.1 more space
      rw [List.takeWhile_cons_of_neg stops, List.append_nil]
  have long := keyLine.length_b64
  rw [Auth.keyBehind, if_neg (not_not.2 rfl), fieldEnd, field, sameKey, if_neg, if_pos keyLine.key,
    keyLine.named]
  · dsimp only
    rw [decide_eq_true rfl, Except.map, if_pos rfl, ← List.drop_drop, List.drop_left]
  · rintro rfl
    cases long

/-- Where the key type is found. -/
theorem KeyLine.keyPlace_iff (keyLine : KeyLine line text b type keyblob b64 tail)
    {items : List Item} (denotes : Denotes Numeral text items) {k : Nat} :
    keyPlace (signkeyNameFromType type) line.rest = .ok (some (some text, k)) ↔
      k = text.length + 1 ∧ text ≠ [] ∧ QuotesPaired text := by
  have behind := keyLine.algoAt
  rw [keyLine.rest]
  generalize signkeyNameFromType type ++ 32 :: (b64 ++ tail) = more at behind
  constructor
  · intro found
    have some := options_ne_nil found
    obtain ⟨c, front, rfl⟩ := List.exists_cons_of_ne_nil some
    have isHead := head_of_denotes denotes
    rw [List.cons_append, keyPlace_of_optionHead isHead type (room_of_algoAt behind)] at found
    rw [← List.cons_append] at found
    have inside := optionsEnd_le false ((c :: front) ++ b :: more)
    dsimp only at found
    split at found
    · obtain ⟨isText, rfl⟩ := Prod.mk.inj (Option.some_inj.1 (Except.ok.inj found))
      have length := congrArg List.length (Option.some_inj.1 isText)
      rw [List.length_take, Nat.min_eq_left inside] at length
      exact ⟨by rw [length], some, (optionsEnd_eq_iff keyLine.blank).1 length⟩
    · cases found
  · rintro ⟨rfl, some, paired⟩
    have stops : optionsEnd false (text ++ b :: more) = text.length :=
      (optionsEnd_eq_iff keyLine.blank).2 paired
    obtain ⟨c, front, rfl⟩ := List.exists_cons_of_ne_nil some
    have isHead := head_of_denotes denotes
    rw [List.cons_append, keyPlace_of_optionHead isHead type (room_of_algoAt behind)]
    rw [← List.cons_append]
    dsimp only
    rw [stops, ← List.drop_drop, List.drop_left, List.drop_one, List.tail_cons, if_pos behind,
      List.take_left]

theorem KeyLine.permitted_iff (keyLine : KeyLine line text b type keyblob b64 tail) :
    Permitted line ↔ line.len ≤ maxAuthkeysLine ∧ 0 ∉ text := by
  have long := keyLine.length_b64
  have length := line.length_contents
  have names : 7 ≤ (signkeyNameFromType type).length ∧ 0 ∉ signkeyNameFromType type := by
    cases type <;> decide
  have others : 0 ∉ b :: (signkeyNameFromType type ++ 32 :: (b64 ++ tail)) := by
    have isBlank_b : b ≠ 0 := by
      rintro rfl
      exact absurd keyLine.blank (by decide)
    have plain : 0 ∉ b64 := fun isIn => (keyLine.plain 0 isIn).2 rfl
    have ends := keyLine.ends.2
    simp [isBlank_b.symm, names.2, plain, ends]
  rw [Permitted, keyLine.contents, List.mem_append, not_or]
  rw [keyLine.contents] at length
  simp only [List.length_append, List.length_cons] at length
  constructor
  · rintro ⟨_, notLong, noZero, _⟩
    exact ⟨notLong, noZero⟩
  · rintro ⟨notLong, noZero⟩
    refine ⟨?_, notLong, noZero, others⟩
    rw [minAuthkeysLine]
    omega

/-- **Options are split off as they are parsed exactly if the quotes are paired**, escaped ones
included. -/
theorem splits_iff (features : Features) (einval : Bool) {parsed : PubKeyOptions}
    (keyLine : KeyLine line text b type keyblob b64 tail)
    (accepted : parsePubkeyOptions features einval (some text) = some parsed) :
    Splits features einval line text type keyblob tail parsed ↔
      (line.len ≤ maxAuthkeysLine ∧ 0 ∉ text) ∧ text ≠ [] ∧ QuotesPaired text := by
  have short : text.length ≤ bufMaxSize := by
    have whole := length_rest_le_max line
    rw [keyLine.rest, List.length_append] at whole
    omega
  rw [parsePubkeyOptions_some features einval short] at accepted
  obtain ⟨items, denotes⟩ := denotes_of_parseLoopText features einval (Nat.le_refl _) accepted
  rw [← keyLine.permitted_iff]
  constructor
  · intro splits
    have permitted : Permitted line := by
      by_contra refused
      have refusal := splits.accepted
      rw [checkpubkeyLine_of_not_permitted _ refused] at refusal
      cases refusal
    have split := splits.split
    rw [findAlgo_eq] at split
    obtain ⟨found, place, same⟩ := Except.map_eq_ok.1 split
    obtain ⟨⟨options, k⟩, rfl, moved⟩ := Option.map_eq_some_iff.1 same
    obtain rfl : options = some text := (Prod.mk.inj moved).1
    exact ⟨permitted, ((keyLine.keyPlace_iff denotes).1 place).2⟩
  · rintro ⟨permitted, some, paired⟩
    have place := (keyLine.keyPlace_iff denotes).2 ⟨rfl, some, paired⟩
    refine ⟨?_, ?_⟩
    · rw [findAlgo_eq, place]
      rfl
    · have behind : line.rest.drop (text.length + 1 + (signkeyNameFromType type).length) =
          32 :: (b64 ++ tail) := by
        rw [keyLine.rest, ← List.drop_drop, ← List.drop_drop, List.drop_left, List.drop_one,
          List.tail_cons, List.drop_left]
      rw [checkpubkeyLine_of_permitted _ permitted, lineOptions, place, Except.ok_bind]
      dsimp only
      rw [behind, keyLine.keyBehind, Except.ok_bind]
      dsimp only
      rw [parsePubkeyOptions_some features einval short, accepted]
      rfl

end KeyLine

/-- The options text, a space, and a key of type `ssh-ed25519` that is nothing but its name. -/
def optionsLine (text : Bytes) (short : text.length ≤ 100) : Buffer where
  data := text ++ ascii " ssh-ed25519 AAAAC3NzaC1lZDI1NTE5"
  len := text.length + 33
  pos := 0
  pos_le_len := Nat.zero_le _
  len_le_size := by
    rw [List.length_append]
    exact Nat.le_refl _
  size_le_max := by
    rw [List.length_append]
    change text.length + 33 ≤ bufMaxSize
    exact Nat.le_trans (Nat.add_le_add_right short 33) (by decide)

theorem keyLine_optionsLine (text : Bytes) (short : text.length ≤ 100) :
    KeyLine (optionsLine text short) text 32 .ed25519 (wireString (ascii "ssh-ed25519"))
      (ascii "AAAAC3NzaC1lZDI1NTE5") [] where
  contents := by
    change (text ++ ascii " ssh-ed25519 AAAAC3NzaC1lZDI1NTE5").take (text.length + 33) = _
    exact List.take_of_length_le (by rw [List.length_append]; exact Nat.le_refl _)
  atStart := rfl
  blank := rfl
  plain := by decide +kernel
  ends := by decide
  key := by decide +kernel
  named := by decide +kernel

/-- The quotes around a value with a blank are paired. -/
theorem splits_iff_command :
    parsePubkeyOptions ⟨true, false, true⟩ false (some (ascii "command=\"a b\"")) =
        some { forcedCommand := some (ascii "a b") } ∧
      Splits ⟨true, false, true⟩ false (optionsLine (ascii "command=\"a b\"") (by decide))
        (ascii "command=\"a b\"") .ed25519 (wireString (ascii "ssh-ed25519")) []
        { forcedCommand := some (ascii "a b") } := by
  have accepted : parsePubkeyOptions ⟨true, false, true⟩ false (some (ascii "command=\"a b\"")) =
      some { forcedCommand := some (ascii "a b") } := by decide +kernel
  refine ⟨accepted, (splits_iff _ _ (keyLine_optionsLine _ _) accepted).2 ⟨?_, ?_, ?_⟩⟩
  · decide
  · decide
  · have stops : optionsEnd false (ascii "command=\"a b\"" ++ 32 :: []) =
        (ascii "command=\"a b\"").length := by decide
    exact (optionsEnd_eq_iff rfl).1 stops

/-- **An escaped quote is counted**: the value is cut at its blank, and the key is refused. -/
theorem splits_escaped :
    parsePubkeyOptions ⟨true, false, true⟩ false
        (some (ascii "command=\"echo \\\"a b\\\"\"")) =
        some { forcedCommand := some (ascii "echo \\\"a b\\\"") } ∧
      checkpubkeyLine (parsePubkeyOptions ⟨true, false, true⟩ false)
        (optionsLine (ascii "command=\"echo \\\"a b\\\"\"") (by decide))
        (signkeyNameFromType .ed25519) (wireString (ascii "ssh-ed25519")) = .ok none := by
  decide +kernel

end Dropbear.Auth
