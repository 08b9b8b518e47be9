/-
# What an accepted line says

If a line of the authorized_keys file authorizes a blob, then the line is made up
of options, the key type and base64 text that decodes to exactly that blob.
-/

import Dropbear.Auth.LineText

namespace Dropbear.Auth

open Program Signkey

/-! ## The parts of a line -/

/-- What stands in front of the key type: nothing, or blanks, options and one
blank. -/
inductive BeforeKey : Option Bytes → Bytes → Prop where
  | nothing : BeforeKey none []
  | options {blanks text : Bytes} {blank : UInt8} (leading : ∀ c ∈ blanks, isBlank c)
      (ends : isBlank blank) : BeforeKey (some text) (blanks ++ text ++ [blank])

variable {text : Bytes}

/-- The options reach up to a blank, if anything stands behind it. -/
theorem exists_blank_optionsEnd {quoted : Bool}
    (more : text.drop (optionsEnd quoted text + 1) ≠ []) :
    ∃ blank, isBlank blank ∧
      text = text.take (optionsEnd quoted text) ++
        blank :: text.drop (optionsEnd quoted text + 1) := by
  induction text generalizing quoted with
  | nil => exact absurd List.drop_nil more
  | cons c rest ih =>
    rw [optionsEnd] at more ⊢
    split
    case _ stops => exact ⟨c, stops.2, rfl⟩
    case _ goesOn =>
      rw [if_neg goesOn, List.drop_succ_cons] at more
      obtain ⟨blank, isBlank, whole⟩ := ih more
      refine ⟨blank, isBlank, ?_⟩
      rw [List.take_succ_cons, List.drop_succ_cons, List.cons_append, ← whole]

variable {algo : Bytes}

theorem prefix_of_algoAt (here : algoAt algo text = some true) :
    algo <+: text ∧ text ≠ [] := by
  rw [algoAt] at here
  split at here
  · cases here
  case _ room =>
    have taken : text.take algo.length = algo := of_decide_eq_true (Option.some_inj.1 here)
    refine ⟨taken ▸ List.take_prefix _ _, ?_⟩
    rintro rfl
    exact room (Nat.succ_pos _)

theorem keyPlace_spec {options : Option Bytes} {k : Nat}
    (found : keyPlace algo text = .ok (some (options, k))) :
    ∃ before, BeforeKey options before ∧ text = before ++ text.drop k := by
  obtain ⟨here, ⟨rfl, rfl⟩ | ⟨behind, isBehind, rfl, place⟩⟩ := keyPlace_cases found
  · exact ⟨[], .nothing, rfl⟩
  · have leading : ∀ c ∈ text.takeWhile isBlank, isBlank c := fun c there =>
      List.mem_takeWhile_imp there
    rw [place] at here ⊢
    obtain ⟨blank, isBlank, split⟩ := exists_blank_optionsEnd (prefix_of_algoAt here).2
    refine ⟨_, .options leading isBlank, ?_⟩
    rw [List.append_assoc, List.append_assoc, List.singleton_append, ← split, isBehind,
      List.takeWhile_append_dropWhile]

variable {keyblob : Bytes}

theorem decodes_of_sameKey (same : sameKey keyblob algo text = .ok true) :
    base64Decode text (text.length * 2) = some keyblob := by
  rw [sameKey] at same
  split at same
  · cases same
  · split at same
    · assumption
    · cases same

theorem keyBehind_spec {rest : Bytes} {info : Option Bytes}
    (found : keyBehind keyblob algo rest = .ok (some info)) :
    ∃ text tail, rest = 32 :: (text ++ tail) ∧ (tail = [] ∨ tail.head? = some 32) ∧
      base64Decode text (text.length * 2) = some keyblob := by
  cases rest with
  | nil => cases found
  | cons c rest =>
    rw [keyBehind] at found
    split at found
    · cases found
    case _ space =>
      rw [not_not] at space
      obtain ⟨same, compared, isInfo⟩ := Except.map_eq_ok.1 found
      cases same with
      | false => cases isInfo
      | true =>
        refine ⟨rest.takeWhile inField, rest.dropWhile inField, ?_, ?_, decodes_of_sameKey compared⟩
        · rw [space, List.takeWhile_append_dropWhile]
        · have stops := List.head?_dropWhile_not inField rest
          cases behind : rest.dropWhile inField with
          | nil => exact .inl rfl
          | cons d tail =>
            rw [behind] at stops
            exact .inr (congrArg some (not_not.1 (of_decide_eq_false stops)))

/-- The line as a whole is what stands before the key, its type, a blank and its
text, and the options are those that stand before the key. -/
def AcceptsLine (parse : ParseOptions) (algo keyblob line : Bytes) (options : PubKeyOptions) :
    Prop :=
  ∃ optionsText before text tail parsed,
    line = before ++ (algo ++ 32 :: (text ++ tail)) ∧ BeforeKey optionsText before ∧
      (tail = [] ∨ tail.head? = some 32) ∧
        base64Decode text (text.length * 2) = some keyblob ∧ parse optionsText = some parsed ∧
          options = { parsed with infoEnv := options.infoEnv }

variable {parse : ParseOptions} {line : Buffer} {options : PubKeyOptions}

/-- **An accepted line is read as a whole.** -/
theorem checkpubkeyLine_spec
    (returned : checkpubkeyLine parse line algo keyblob = .ok (some options)) :
    AcceptsLine parse algo keyblob line.rest options := by
  rw [checkpubkeyLine_eq] at returned
  split at returned
  · cases returned
  split at returned
  · cases returned
  obtain ⟨_ | ⟨optionsText, k⟩, located, returned⟩ := Except.bind_eq_ok.1 returned
  · cases returned
  obtain ⟨_ | info, compared, returned⟩ := Except.bind_eq_ok.1 returned
  · cases returned
  obtain ⟨parsed, parsed_eq, rfl⟩ := Option.map_eq_some_iff.1 (Except.ok.inj returned)
  obtain ⟨before, isBefore, whole⟩ := keyPlace_spec located
  obtain ⟨there, _⟩ := prefix_of_algoAt (keyPlace_cases located).1
  obtain ⟨text, tail, behind, ends, decoded⟩ := keyBehind_spec compared
  refine ⟨optionsText, before, text, tail, parsed, ?_, isBefore, ends, decoded, parsed_eq, rfl⟩
  obtain ⟨more, isMore⟩ := there
  rw [← List.drop_drop, ← isMore, List.drop_left] at behind
  rw [whole, ← isMore, behind]

theorem exists_text_of_checkpubkeyLine
    (returned : checkpubkeyLine parse line algo keyblob = .ok (some options)) :
    ∃ text, text <:+: line.contents ∧ base64Decode text (text.length * 2) = some keyblob := by
  obtain ⟨_, before, text, tail, _, whole, _, _, decoded, _⟩ := checkpubkeyLine_spec returned
  refine ⟨text, ?_, decoded⟩
  have inside : text <:+: line.rest := by
    rw [whole]
    exact ⟨before ++ (algo ++ [32]), tail, by simp⟩
  exact inside.trans (List.drop_suffix _ _).isInfix

/-! ## The file -/

theorem exists_line_of_checkpubkeyLoop {file : Bytes} {n : Nat}
    (returned : checkpubkeyLoop parse algo keyblob n line file = .ok (some options)) :
    ∃ line, checkpubkeyLine parse line algo keyblob = .ok (some options) := by
  induction n generalizing line file with
  | zero => cases returned
  | succ n ih =>
    obtain ⟨⟨read, file'⟩, _, returned⟩ := Except.bind_eq_ok.1 returned
    cases read with
    | none => cases returned
    | some read =>
      obtain ⟨answer, checked, returned⟩ := Except.bind_eq_ok.1 returned
      cases answer with
      | none => exact ih returned
      | some options' =>
        cases returned
        exact ⟨read, checked⟩

/-- An authorized key is the key of some line. -/
theorem exists_line_of_checkpubkey {file : Bytes}
    (returned : checkpubkey parse algo keyblob file = .ok (some options)) :
    ∃ line, checkpubkeyLine parse line algo keyblob = .ok (some options) := by
  obtain ⟨line, _, returned⟩ := Except.bind_eq_ok.1 returned
  exact exists_line_of_checkpubkeyLoop returned

end Dropbear.Auth
