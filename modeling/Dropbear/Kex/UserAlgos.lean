/-
# Lists of algorithms on the command line

`check_user_algos` reduces a table to the names that a user gave.  Its cursor moves
twice at a comma, so the character behind a comma is never taken for a separator.
The list is read as it was written exactly when no item but the first one is empty.
-/

import Dropbear.Kex.Algo

namespace Dropbear.Kex

open Program

variable {α : Type}

/-! ## Reducing a table -/

/-- `check_algo`: the entry of a table with that name. -/
def checkAlgo (algoName : Bytes) (algos : List (Algo α)) : Option (Algo α) :=
  algos.find? (fun algo => decide (algo.name = algoName))

/-- What becomes of one item: an entry of the table that was not kept before is kept. -/
def keepAlgo (algos : List (Algo α)) (newAlgos : List (Algo α)) (item : Bytes) :
    List (Algo α) :=
  match checkAlgo item algos with
  | some matchAlgo => if (checkAlgo item newAlgos).isSome then newAlgos else newAlgos ++ [matchAlgo]
  | none => newAlgos

/-- How `check_user_algos` ends when there is no room left. -/
def tooManyAlgos : Exit := .exit "Too many algorithms '%s'"

/-- The loop of `check_user_algos`: the text from `start` to the cursor, what is left of
the work copy with its terminator, and the entries kept so far. -/
def userAlgosLoop (algos : List (Algo α)) (item : Bytes) :
    Bytes → List (Algo α) → Except Exit (List (Algo α))
  | [], _ => .error .overrun
  | oc :: rest, newAlgos =>
    if newAlgos.length ≥ maxProposedAlgo then .error tooManyAlgos
    else if oc = 0 then .ok (keepAlgo algos newAlgos item)
    else if oc = comma then
      -- `c++` in the body and again in the header of the loop
      match rest with
      | [] => .error .overrun
      | first :: rest => userAlgosLoop algos [first] rest (keepAlgo algos newAlgos item)
    else userAlgosLoop algos (item ++ [oc]) rest newAlgos

/-- The memory of a table, up to the entry without a name. -/
def tableMemory (algos : List (Algo α)) : List (Option (Algo α)) := algos.map some ++ [none]

/-- `check_user_algos`: the number of entries kept and the memory of the table, whose
beginning is overwritten by them. -/
def checkUserAlgos (userAlgoList : Bytes) (algos : List (Algo α)) :
    Except Exit (Nat × List (Option (Algo α))) := do
  let workList := cString userAlgoList ++ [0]
  let newAlgos ← userAlgosLoop algos [] workList []
  let image := tableMemory newAlgos
  if image.length > (tableMemory algos).length then throw .overrun
  pure (newAlgos.length, image ++ (tableMemory algos).drop image.length)

/-! ## What a list asks for -/

/-- The items of a list. -/
def userItems (userAlgoList : Bytes) : List Bytes := (cString userAlgoList).splitOn comma

/-- The supported names of a list of items, each where it occurs first. -/
def supportedNames (algos : List (Algo α)) (items : List Bytes) : List Bytes :=
  (items.filter (fun item => (checkAlgo item algos).isSome)).eraseDups

/-- The entries for those names. -/
def supportedAlgos (algos : List (Algo α)) (items : List Bytes) : List (Algo α) :=
  (supportedNames algos items).filterMap (checkAlgo · algos)

/-- A list is read as it was written: nothing behind the terminator is read, and a table
that is returned holds the supported names and a terminator. -/
structure ReadAsWritten (userAlgoList : Bytes) (algos : List (Algo α)) : Prop where
  ends : ∀ exit, checkUserAlgos userAlgoList algos = .error exit → exit = tooManyAlgos
  table : ∀ count memory, checkUserAlgos userAlgoList algos = .ok (count, memory) →
    count = (supportedNames algos (userItems userAlgoList)).length ∧
    ∃ rest, memory = tableMemory (supportedAlgos algos (userItems userAlgoList)) ++ rest

/-! ## The entries kept -/

variable {algos : List (Algo α)}

theorem name_of_checkAlgo {algoName : Bytes} {algo : Algo α}
    (found : checkAlgo algoName algos = some algo) : algo.name = algoName := by
  rw [checkAlgo] at found
  simpa using List.find?_some found

theorem isSome_checkAlgo_iff {algoName : Bytes} :
    (checkAlgo algoName algos).isSome ↔ algoName ∈ algos.map Algo.name := by
  simp only [checkAlgo, List.find?_isSome, decide_eq_true_eq, List.mem_map]

/-- An item names an entry that has not been kept. -/
def isFresh (algos newAlgos : List (Algo α)) (item : Bytes) : Bool :=
  (checkAlgo item algos).isSome && (checkAlgo item newAlgos).isNone

/-- A name that has just been kept is not fresh any more. -/
theorem isFresh_append (algos newAlgos : List (Algo α)) (algo : Algo α) (item : Bytes) :
    isFresh algos (newAlgos ++ [algo]) item =
      (!item == algo.name && isFresh algos newAlgos item) := by
  by_cases same : algo.name = item
  · simp [isFresh, checkAlgo, List.find?_append, same]
  · simp [isFresh, checkAlgo, List.find?_append, same, Ne.symm same]

/-- The items are kept in turn, each name where it occurs first. -/
theorem foldl_keepAlgo (algos : List (Algo α)) (items : List Bytes) (newAlgos : List (Algo α)) :
    items.foldl (keepAlgo algos) newAlgos =
      newAlgos ++ (items.filter (isFresh algos newAlgos)).eraseDups.filterMap
        (checkAlgo · algos) := by
  induction items generalizing newAlgos with
  | nil => simp
  | cons item items hypothesis =>
    rw [List.foldl_cons, hypothesis, List.filter_cons]
    cases supported : checkAlgo item algos with
    | none => simp [keepAlgo, isFresh, supported]
    | some algo =>
      by_cases kept : (checkAlgo item newAlgos).isSome
      · have stale : isFresh algos newAlgos item = false := by
          simp [isFresh, kept]
        simp [keepAlgo, stale, supported, kept]
      · have fresh : isFresh algos newAlgos item := by
          simpa [isFresh, supported] using kept
        have added : keepAlgo algos newAlgos item = newAlgos ++ [algo] := by
          simp [keepAlgo, supported, kept]
        have others : items.filter (isFresh algos (newAlgos ++ [algo])) =
            (items.filter (isFresh algos newAlgos)).filter (fun name => !name == item) := by
          rw [List.filter_filter, ← name_of_checkAlgo supported]
          exact List.filter_congr fun name _ => isFresh_append algos newAlgos algo name
        simp [added, others, fresh, List.eraseDups_cons, supported]

/-- A table is reduced to the supported names of the items. -/
theorem foldl_keepAlgo_nil (algos : List (Algo α)) (items : List Bytes) :
    items.foldl (keepAlgo algos) [] = supportedAlgos algos items := by
  rw [foldl_keepAlgo]
  have all : isFresh algos [] = fun item => (checkAlgo item algos).isSome := by
    funext item
    simp [isFresh, show checkAlgo item ([] : List (Algo α)) = none from rfl]
  rw [all, List.nil_append, supportedAlgos, supportedNames]

theorem map_name_supportedAlgos (algos : List (Algo α)) (items : List Bytes) :
    (supportedAlgos algos items).map Algo.name = supportedNames algos items := by
  rw [supportedAlgos, List.map_filterMap]
  have each : ∀ item ∈ supportedNames algos items,
      (checkAlgo item algos).map Algo.name = some item := by
    intro item within
    have supported := (List.mem_filter.1 (List.mem_eraseDups.1 within)).2
    obtain ⟨algo, found⟩ := Option.isSome_iff_exists.1 supported
    rw [found, Option.map_some, name_of_checkAlgo found]
  rw [List.filterMap_congr each, List.filterMap_some]

theorem nodup_eraseDups : ∀ names : List Bytes, names.eraseDups.Nodup
  | [] => by simp
  | name :: names => by
    rw [List.eraseDups_cons, List.nodup_cons]
    exact ⟨by simp [List.mem_eraseDups], nodup_eraseDups _⟩
  termination_by names => names.length
  decreasing_by exact Nat.lt_succ_of_le (List.length_filter_le _ _)

/-- There is room for the names in the table they are taken from. -/
theorem length_supportedAlgos_le (algos : List (Algo α)) (items : List Bytes) :
    (supportedAlgos algos items).length ≤ algos.length := by
  have within : supportedNames algos items ⊆ algos.map Algo.name := by
    intro item listed
    exact isSome_checkAlgo_iff.1 (List.mem_filter.1 (List.mem_eraseDups.1 listed)).2
  calc (supportedAlgos algos items).length
      = (supportedNames algos items).length := by rw [← map_name_supportedAlgos, List.length_map]
    _ ≤ (algos.map Algo.name).length := ((nodup_eraseDups _).subperm within).length_le
    _ = algos.length := List.length_map _

/-! ## Reading the items -/

/-- An item as it stands between separators. -/
def IsItem (item : Bytes) : Prop := 0 ∉ item ∧ comma ∉ item

theorem IsItem.tail {first : UInt8} {others : Bytes} (isItem : IsItem (first :: others)) :
    IsItem others :=
  ⟨fun zero => isItem.1 (List.mem_cons_of_mem first zero),
    fun separator => isItem.2 (List.mem_cons_of_mem first separator)⟩

variable {item : Bytes}

/-- The items of a text. -/
theorem isItem_of_mem_splitOn {text : Bytes} (ends : 0 ∉ text) (within : item ∈ text.splitOn comma)
    : IsItem item := by
  induction text generalizing item with
  | nil =>
    rw [List.splitOn_nil, List.mem_singleton] at within
    simp [within, IsItem]
  | cons char text hypothesis =>
    have later : 0 ∉ text := fun zero => ends (List.mem_cons_of_mem char zero)
    rw [List.splitOn_cons_eq_if_modifyHead] at within
    split at within
    case isTrue =>
      rcases List.mem_cons.1 within with first | other
      · simp [first, IsItem]
      · exact hypothesis later other
    case isFalse plain =>
      obtain ⟨first, others, split⟩ := List.exists_cons_of_ne_nil
        (List.splitOn_ne_nil comma text)
      rw [split, List.modifyHead_cons] at within
      rcases List.mem_cons.1 within with extended | other
      · have shorter := hypothesis later (split ▸ List.mem_cons_self)
        have nonzero : char ≠ 0 := fun zero => ends (zero ▸ List.mem_cons_self)
        have noComma : char ≠ comma := by simpa using plain
        simpa [extended, IsItem, nonzero.symm, noComma.symm] using shorter
      · exact hypothesis later (split ▸ List.mem_cons_of_mem first other)

theorem userAlgosLoop_cons (algos newAlgos : List (Algo α)) (item : Bytes) (oc : UInt8)
    (rest : Bytes) :
    userAlgosLoop algos item (oc :: rest) newAlgos =
      if newAlgos.length ≥ maxProposedAlgo then .error tooManyAlgos
      else if oc = 0 then .ok (keepAlgo algos newAlgos item)
      else if oc = comma then
        match rest with
        | [] => .error .overrun
        | first :: rest => userAlgosLoop algos [first] rest (keepAlgo algos newAlgos item)
      else userAlgosLoop algos (item ++ [oc]) rest newAlgos := by
  rewrite [userAlgosLoop.eq_def]
  cases rest <;> rfl

variable {newAlgos : List (Algo α)}

theorem userAlgosLoop_full {text : Bytes} (full : maxProposedAlgo ≤ newAlgos.length)
    (more : text ≠ []) :
    userAlgosLoop algos item text newAlgos = .error tooManyAlgos := by
  cases text with
  | nil => exact absurd rfl more
  | cons oc rest => rw [userAlgosLoop_cons, if_pos full]

/-- The cursor passes the characters of an item. -/
theorem userAlgosLoop_item (room : newAlgos.length < maxProposedAlgo) (chars : Bytes)
    (isItem : IsItem chars) (rest : Bytes) :
    userAlgosLoop algos item (chars ++ rest) newAlgos =
      userAlgosLoop algos (item ++ chars) rest newAlgos := by
  induction chars generalizing item with
  | nil => simp
  | cons char chars hypothesis =>
    obtain ⟨noZero, noComma⟩ := isItem
    rw [List.mem_cons, not_or] at noZero noComma
    rw [List.cons_append, userAlgosLoop_cons, if_neg (by omega), if_neg (Ne.symm noZero.1),
      if_neg (Ne.symm noComma.1), hypothesis ⟨noZero.2, noComma.2⟩, List.append_assoc,
      List.singleton_append]

theorem userAlgosLoop_end (room : newAlgos.length < maxProposedAlgo) (rest : Bytes) :
    userAlgosLoop algos item (0 :: rest) newAlgos = .ok (keepAlgo algos newAlgos item) := by
  rw [userAlgosLoop_cons, if_neg (by omega), if_pos rfl]

/-- At a comma the item is kept and the next character is passed unseen. -/
theorem userAlgosLoop_comma (room : newAlgos.length < maxProposedAlgo) (first : UInt8)
    (rest : Bytes) :
    userAlgosLoop algos item (comma :: first :: rest) newAlgos =
      userAlgosLoop algos [first] rest (keepAlgo algos newAlgos item) := by
  rw [userAlgosLoop_cons, if_neg (by omega), if_neg (by decide), if_pos rfl]

theorem intercalate_cons_head (first : UInt8) (item : Bytes) (items : List Bytes) :
    [comma].intercalate ((first :: item) :: items) =
      first :: [comma].intercalate (item :: items) := by
  cases items with
  | nil => simp
  | cons next items => simp [List.intercalate_cons_cons]

/-- Items that are not empty are all kept, unless there are too many. -/
theorem userAlgosLoop_items (algos : List (Algo α)) (items : List Bytes)
    (isItem : ∀ item ∈ items, IsItem item) (nonempty : ∀ item ∈ items, item ≠ [])
    {chars : Bytes} (isFirst : IsItem chars) (item : Bytes) (newAlgos : List (Algo α)) :
    userAlgosLoop algos item ([comma].intercalate (chars :: items) ++ [0]) newAlgos =
        .error tooManyAlgos ∨
      userAlgosLoop algos item ([comma].intercalate (chars :: items) ++ [0]) newAlgos =
        .ok (((item ++ chars) :: items).foldl (keepAlgo algos) newAlgos) := by
  induction items generalizing chars item newAlgos with
  | nil =>
    by_cases room : newAlgos.length < maxProposedAlgo
    · right
      rw [List.intercalate_singleton, userAlgosLoop_item room chars isFirst,
        userAlgosLoop_end room, List.foldl_cons, List.foldl_nil]
    · exact Or.inl (userAlgosLoop_full (by omega) (by simp))
  | cons next items hypothesis =>
    by_cases room : newAlgos.length < maxProposedAlgo
    · obtain ⟨first, others, rfl⟩ := List.exists_cons_of_ne_nil (nonempty next List.mem_cons_self)
      have isOthers : IsItem others := (isItem _ List.mem_cons_self).tail
      have continued := hypothesis
        (fun item within => isItem item (List.mem_cons_of_mem _ within))
        (fun item within => nonempty item (List.mem_cons_of_mem _ within)) isOthers [first]
        (keepAlgo algos newAlgos (item ++ chars))
      rw [List.intercalate_cons_cons, List.append_assoc, List.append_assoc,
        userAlgosLoop_item room chars isFirst, intercalate_cons_head, List.singleton_append,
        List.cons_append, userAlgosLoop_comma room, List.foldl_cons]
      exact continued
    · exact Or.inl (userAlgosLoop_full (by omega) (by simp))

/-! ## Empty items -/

/-- A table of which no proper item is a name. -/
def Unlisted (algos : List (Algo α)) : Prop := ∀ algo ∈ algos, comma ∈ algo.name

theorem Unlisted.checkAlgo_eq_none (unlisted : Unlisted algos) (isItem : IsItem item) :
    checkAlgo item algos = none := by
  rw [checkAlgo, List.find?_eq_none]
  intro algo within
  have different : algo.name ≠ item := fun same => isItem.2 (same ▸ unlisted algo within)
  simpa using different

theorem Unlisted.keepAlgo (unlisted : Unlisted algos) (isItem : IsItem item)
    (newAlgos : List (Algo α)) :
    keepAlgo algos newAlgos item = newAlgos := by
  rw [Kex.keepAlgo, unlisted.checkAlgo_eq_none isItem]

/-- Once the only entry of a table is kept, nothing more is. -/
theorem userAlgosLoop_single (algo : Algo α) (item text : Bytes) :
    userAlgosLoop [algo] item text [algo] = .ok [algo] ∨
      userAlgosLoop [algo] item text [algo] = .error .overrun := by
  have same : ∀ item, keepAlgo [algo] [algo] item = [algo] := by
    intro item
    by_cases named : algo.name = item <;> simp [keepAlgo, checkAlgo, named]
  induction size : text.length using Nat.strongRecOn generalizing text item with
  | ind size hypothesis =>
    subst size
    cases text with
    | nil => exact Or.inr rfl
    | cons oc rest =>
      rw [userAlgosLoop_cons, if_neg (by simp [maxProposedAlgo]), same]
      split
      · exact Or.inl rfl
      · split
        · cases rest with
          | nil => exact Or.inr rfl
          | cons first rest =>
            have shorter : rest.length < (oc :: first :: rest).length := by
              rw [List.length_cons, List.length_cons]
              omega
            exact hypothesis rest.length shorter [first] rest rfl
        · exact hypothesis rest.length (by simp) (item ++ [oc]) rest rfl

/-- The text behind a doubled comma is taken as one item with the second comma. -/
theorem userAlgosLoop_doubled {algo : Algo α} {lost : Bytes} (named : algo.name = comma :: lost)
    (isLost : IsItem lost) (items : List Bytes) :
    userAlgosLoop [algo] [comma] ([comma].intercalate (lost :: items) ++ [0]) [] = .ok [algo] ∨
      userAlgosLoop [algo] [comma] ([comma].intercalate (lost :: items) ++ [0]) [] =
        .error .overrun := by
  have room : ([] : List (Algo α)).length < maxProposedAlgo := Nat.succ_pos _
  have kept : keepAlgo [algo] [] ([comma] ++ lost) = [algo] := by
    simp [keepAlgo, checkAlgo, named]
  cases items with
  | nil =>
    rw [List.intercalate_singleton, userAlgosLoop_item room lost isLost,
      userAlgosLoop_end room, kept]
    exact Or.inl rfl
  | cons next items =>
    obtain ⟨first, rest, text⟩ : ∃ first rest,
        [comma].intercalate (next :: items) ++ [0] = first :: rest :=
      List.exists_cons_of_ne_nil (by simp)
    rw [List.intercalate_cons_cons, List.append_assoc, List.append_assoc, text,
      userAlgosLoop_item room lost isLost, List.singleton_append (l := first :: rest),
      userAlgosLoop_comma room, kept]
    exact userAlgosLoop_single algo [first] rest

/-- An empty item behind a comma is taken together with the comma that ends it, or with
the terminator. -/
theorem userAlgosLoop_empty [Inhabited α] (items : List Bytes)
    (isItem : ∀ item ∈ items, IsItem item) (empty : [] ∈ items) {chars : Bytes}
    (isChars : IsItem chars) (isFirst : IsItem (item ++ chars)) :
    ∃ algos : List (Algo α), Unlisted algos ∧
      ((∃ algo, userAlgosLoop algos item ([comma].intercalate (chars :: items) ++ [0]) [] =
          .ok [algo]) ∨
        userAlgosLoop algos item ([comma].intercalate (chars :: items) ++ [0]) [] =
          .error .overrun) := by
  have room : ([] : List (Algo α)).length < maxProposedAlgo := Nat.succ_pos _
  induction items generalizing chars item with
  | nil => exact absurd empty List.not_mem_nil
  | cons next items hypothesis =>
    rw [List.intercalate_cons_cons, List.append_assoc, List.append_assoc]
    simp only [userAlgosLoop_item room chars isChars]
    cases next with
    | cons first others =>
      have isNext : IsItem (first :: others) := isItem _ List.mem_cons_self
      obtain ⟨algos, unlisted, fails⟩ := hypothesis
        (fun item within => isItem item (List.mem_cons_of_mem _ within))
        (by simpa using empty) isNext.tail (show IsItem ([first] ++ others) from isNext)
      refine ⟨algos, unlisted, ?_⟩
      rw [intercalate_cons_head, List.singleton_append, List.cons_append,
        userAlgosLoop_comma room, unlisted.keepAlgo isFirst]
      exact fails
    | nil =>
      cases items with
      | nil => exact ⟨[], by simp [Unlisted], Or.inr rfl⟩
      | cons lost items =>
        let algo : Algo α := ⟨comma :: lost, default, true⟩
        have unlisted : Unlisted [algo] := by simp [Unlisted, algo]
        refine ⟨[algo], unlisted, ?_⟩
        rw [List.intercalate_cons_cons, List.nil_append, List.singleton_append,
          List.singleton_append, List.cons_append, userAlgosLoop_comma room,
          unlisted.keepAlgo isFirst]
        have isLost : IsItem lost := isItem lost (by simp)
        exact (userAlgosLoop_doubled rfl isLost items).imp_left fun done => ⟨algo, done⟩

/-! ## The lists that are read as they were written -/

theorem zero_not_mem_cString (bytes : Bytes) : 0 ∉ cString bytes := by
  intro zero
  have nonzero := List.all_eq_true.1 (List.all_takeWhile (l := bytes)) 0 zero
  simp at nonzero

variable {userAlgoList : Bytes}

/-- What is done with the entries that were kept. -/
theorem checkUserAlgos_of_ok
    (kept : userAlgosLoop algos [] (cString userAlgoList ++ [0]) [] = .ok newAlgos) :
    checkUserAlgos userAlgoList algos =
      if algos.length < newAlgos.length then .error .overrun
      else .ok (newAlgos.length,
        tableMemory newAlgos ++ (tableMemory algos).drop (tableMemory newAlgos).length) := by
  rw [checkUserAlgos, kept]
  have sizes : (tableMemory newAlgos).length > (tableMemory algos).length ↔
      algos.length < newAlgos.length := by
    simp [tableMemory]
  by_cases long : algos.length < newAlgos.length
  · rw [if_pos long]
    exact if_pos (sizes.2 long)
  · rw [if_neg long]
    exact if_neg (mt sizes.1 long)

theorem checkUserAlgos_of_error {exit : Exit}
    (ends : userAlgosLoop algos [] (cString userAlgoList ++ [0]) [] = .error exit) :
    checkUserAlgos userAlgoList algos = .error exit := by
  rw [checkUserAlgos, ends]
  rfl

theorem isItem_of_mem_userItems (within : item ∈ userItems userAlgoList) : IsItem item :=
  isItem_of_mem_splitOn (zero_not_mem_cString userAlgoList) within

/-- The items without empty ones behind a comma. -/
theorem readAsWritten_of_nonempty (nonempty : ∀ item ∈ (userItems userAlgoList).tail, item ≠ [])
    (algos : List (Algo α)) :
    ReadAsWritten userAlgoList algos := by
  obtain ⟨chars, items, split⟩ := List.exists_cons_of_ne_nil
    (List.splitOn_ne_nil comma (cString userAlgoList))
  have within : ∀ item ∈ chars :: items, IsItem item := fun item listed =>
    isItem_of_mem_userItems (split ▸ listed)
  have text : [comma].intercalate (chars :: items) = cString userAlgoList := by
    rw [← split, List.intercalate_splitOn]
  have read := userAlgosLoop_items algos items
    (fun item listed => within item (List.mem_cons_of_mem chars listed))
    (by simpa [userItems, split] using nonempty) (within chars List.mem_cons_self) [] []
  rw [text, List.nil_append, foldl_keepAlgo_nil] at read
  rcases read with many | kept
  · have ends := checkUserAlgos_of_error many
    exact ⟨fun exit same => (Except.error.inj (ends.symm.trans same)).symm,
      fun count memory same => absurd (ends.symm.trans same) nofun⟩
  · have returns := checkUserAlgos_of_ok kept
    rw [if_neg (Nat.not_lt.2 (length_supportedAlgos_le algos (chars :: items))), ← split] at returns
    refine ⟨fun exit same => absurd (returns.symm.trans same) nofun, ?_⟩
    intro count memory same
    obtain ⟨rfl, rfl⟩ := Prod.mk.inj (Except.ok.inj (returns.symm.trans same))
    refine ⟨?_, _, rfl⟩
    rw [← map_name_supportedAlgos, List.length_map]
    rfl

/-- No item is a name with a comma. -/
theorem Unlisted.supportedAlgos (unlisted : Unlisted algos) (userAlgoList : Bytes) :
    supportedAlgos algos (userItems userAlgoList) = [] := by
  have none : (userItems userAlgoList).filter (fun item => (checkAlgo item algos).isSome) = [] := by
    rw [List.filter_eq_nil_iff]
    intro item within
    simp [unlisted.checkAlgo_eq_none (isItem_of_mem_userItems within)]
  rw [Kex.supportedAlgos, supportedNames, none]
  rfl

/-- A list is read as it was written, whatever the table, when no item but the first one
is empty: no comma stands before another one or at the end. -/
theorem readAsWritten_iff [Inhabited α] (userAlgoList : Bytes) :
    (∀ algos : List (Algo α), ReadAsWritten userAlgoList algos) ↔
      ∀ item ∈ (userItems userAlgoList).tail, item ≠ [] := by
  refine ⟨fun read item within empty => ?_, fun nonempty => readAsWritten_of_nonempty nonempty⟩
  obtain ⟨chars, items, split⟩ := List.exists_cons_of_ne_nil
    (List.splitOn_ne_nil comma (cString userAlgoList))
  have isItem : ∀ item ∈ chars :: items, IsItem item := fun item listed =>
    isItem_of_mem_userItems (split ▸ listed)
  have text : [comma].intercalate (chars :: items) = cString userAlgoList := by
    rw [← split, List.intercalate_splitOn]
  have hasEmpty : [] ∈ items := by
    simpa [userItems, split, empty] using within
  have isChars := isItem chars List.mem_cons_self
  obtain ⟨algos, unlisted, fails⟩ := userAlgosLoop_empty (α := α) items
    (fun item listed => isItem item (List.mem_cons_of_mem chars listed)) hasEmpty isChars
    (show IsItem ([] ++ chars) from isChars)
  rw [text] at fails
  rcases fails with ⟨algo, kept⟩ | overrun
  · have returns := checkUserAlgos_of_ok kept
    split at returns
    · nomatch (read algos).ends _ returns
    · obtain ⟨_, rest, memory⟩ := (read algos).table _ _ returns
      rw [unlisted.supportedAlgos] at memory
      simp [tableMemory] at memory
  · nomatch (read algos).ends _ (checkUserAlgos_of_error overrun)

/-- Two ciphers. -/
def userCiphers : List (Algo Unit) :=
  [⟨ascii "aes128-ctr", (), true⟩, ⟨ascii "aes256-ctr", (), true⟩]

/-- A comma at the end leads behind the terminator, and the name behind a doubled comma
is dropped though it is supported. -/
theorem readAsWritten_fails_for_commas :
    checkUserAlgos (ascii "aes128-ctr,") userCiphers = .error .overrun ∧
      checkUserAlgos (ascii "aes128-ctr,,aes256-ctr") userCiphers =
        .ok (1, [some ⟨ascii "aes128-ctr", (), true⟩, none, none]) ∧
      supportedNames userCiphers (userItems (ascii "aes128-ctr,,aes256-ctr")) =
        [ascii "aes128-ctr", ascii "aes256-ctr"] ∧
      ¬ ReadAsWritten (ascii "aes128-ctr,") userCiphers ∧
      ¬ ReadAsWritten (ascii "aes128-ctr,,aes256-ctr") userCiphers := by
  have overrun : checkUserAlgos (ascii "aes128-ctr,") userCiphers = .error .overrun := by
    decide +kernel
  have lost : checkUserAlgos (ascii "aes128-ctr,,aes256-ctr") userCiphers =
      .ok (1, [some ⟨ascii "aes128-ctr", (), true⟩, none, none]) := by
    decide +kernel
  have names : supportedNames userCiphers (userItems (ascii "aes128-ctr,,aes256-ctr")) =
      [ascii "aes128-ctr", ascii "aes256-ctr"] := by
    decide +kernel
  refine ⟨overrun, lost, names, fun read => ?_, fun read => ?_⟩
  · nomatch read.ends _ overrun
  · have count := (read.table _ _ lost).1
    rw [names] at count
    nomatch count

end Dropbear.Kex
