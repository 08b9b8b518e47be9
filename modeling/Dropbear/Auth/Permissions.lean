/-
# The permissions of the authorized keys

Before the authorized keys of a user are read, `checkpubkeyperms` walks up their
path from the right and looks at every directory until it meets the home
directory or the root.  The walk cuts the string off at its last slash and
compares strings, so what it looks at depends on how the paths are spelled.

The file system maps places to what `stat` finds there.  A place is a list of
names from the root; a relative path starts at the working directory.
-/

import Dropbear.Program.Path

namespace Dropbear.Auth

open Program

/-! ## Files -/

/-- The part of `struct stat` that is looked at. -/
structure FileStat where
  stUid : Nat
  stMode : Nat
  deriving DecidableEq, Repr

structure FileSystem where
  lookup : List Bytes → Option FileStat
  cwd : List Bytes

namespace FileSystem

/-- Where a path leads from. -/
def base (fs : FileSystem) (path : Bytes) : List Bytes :=
  if path.head? = some slash then [] else fs.cwd

/-- The place a path leads to. -/
def place (fs : FileSystem) (path : Bytes) : List Bytes := fs.base path ++ names path

/-- `stat`.  The empty path is no path. -/
def stat (fs : FileSystem) (path : Bytes) : Option FileStat :=
  if path = [] then none else fs.lookup (fs.place path)

end FileSystem

/-! ## The walk -/

def expandHomedirPathHome (inpath homedir : Bytes) : Bytes :=
  if inpath.take 2 = ascii "~/" then homedir ++ slash :: inpath.drop 2 else inpath

/-- The directory given with `-D`, with the home directory filled in. -/
def authorizedKeysFilepath (authorizedKeysDir pwDir : Bytes) : Bytes :=
  expandHomedirPathHome authorizedKeysDir pwDir ++ slash :: ascii "authorized_keys"

/-- Whether a warning has been logged, and for which files. -/
structure PermLog where
  permWarn : Bool
  log : List Bytes
  deriving DecidableEq, Repr

/-- The user whose keys are read. -/
structure KeyOwner where
  pwUid : Nat
  pwDir : Bytes

/-- `S_IWGRP | S_IWOTH`. -/
def writableByOthers : Nat := 0o22

/-- The file is there, is owned by the user or root, and only its owner may write
to it. -/
def isOkay (pwUid : Nat) : Option FileStat → Bool
  | none => false
  | some filestat =>
    !((filestat.stUid ≠ pwUid && filestat.stUid ≠ 0) || filestat.stMode &&& writableByOthers ≠ 0)

def checkfileperm (fs : FileSystem) (owner : KeyOwner) (filename : Bytes) : StateM PermLog Bool :=
  match fs.stat filename with
  | none => pure false
  | some filestat =>
    if isOkay owner.pwUid (some filestat) then pure true
    else do
      modify fun perm =>
        if perm.permWarn then perm
        else { permWarn := true, log := perm.log ++ [filename] }
      pure false

/-- The loop of `checkpubkeyperms`.  Nothing is returned if `fuel` runs out. -/
def checkpubkeypermsLoop (fs : FileSystem) (owner : KeyOwner) :
    Nat → Bytes → Bool → StateM PermLog (Option Bool)
  | 0, _, _ => pure none
  | fuel + 1, path, ret =>
    match strrchr slash path with
    | none => pure (some ret)
    | some sep => do
      -- the root directory keeps its slash
      let path := path.take (if sep = 0 then 1 else sep)
      let okay ← checkfileperm fs owner path
      let ret := ret && okay
      if path = owner.pwDir ∨ path = [slash] then pure (some ret)
      else checkpubkeypermsLoop fs owner fuel path ret

def checkpubkeyperms (fs : FileSystem) (owner : KeyOwner) (authorizedKeysDir : Bytes) :
    StateM PermLog (Option Bool) :=
  let path := authorizedKeysFilepath authorizedKeysDir owner.pwDir
  checkpubkeypermsLoop fs owner (path.length + 1) path true

/-! ## What the walk looks at -/

/-- The home directory is spelled as the path begins. -/
def Spelled (owner : KeyOwner) (path : Bytes) : Prop :=
  owner.pwDir ≠ [] ∧ owner.pwDir ++ [slash] <+: path

instance (owner : KeyOwner) (path : Bytes) : Decidable (Spelled owner path) :=
  inferInstanceAs (Decidable (_ ∧ _))

/-- How many names the walk leaves of a path: those of the home directory if it
meets it, else none, or the first one if the path does not begin with a slash. -/
def stopsAt (owner : KeyOwner) (path : Bytes) : Nat :=
  if Spelled owner path then (names owner.pwDir).length
  else if path.head? = some slash then 0 else 1

/-- The directories of a path above which the walk does not go are okay. -/
def WalkOkay (fs : FileSystem) (owner : KeyOwner) (path front : Bytes) : Prop :=
  ∀ k, stopsAt owner path ≤ k → k ≤ (names front).length →
    isOkay owner.pwUid (fs.lookup (fs.base path ++ (names front).take k))

theorem fst_checkfileperm (fs : FileSystem) (owner : KeyOwner) (filename : Bytes)
    (perm : PermLog) :
    (checkfileperm fs owner filename perm).1 = isOkay owner.pwUid (fs.stat filename) := by
  rw [checkfileperm]
  cases fs.stat filename with
  | none => rfl
  | some filestat =>
    cases okay : isOkay owner.pwUid (some filestat) with
    | true => simp only [okay, if_true]; rfl
    | false => simp only [okay, Bool.false_eq_true, if_false]; rfl

section Walk

variable {owner : KeyOwner} {front name : Bytes}

/-- Cutting off the last name does not change where the walk stops. -/
theorem spelled_front (absent : slash ∉ name) (other : front ≠ owner.pwDir) :
    Spelled owner (front ++ slash :: name) ↔ Spelled owner front := by
  constructor
  · rintro ⟨nonempty, begins⟩
    exact ⟨nonempty, prefix_of_append_noSlash absent other begins⟩
  · rintro ⟨nonempty, begins⟩
    exact ⟨nonempty, begins.trans (List.prefix_append _ _)⟩

theorem head?_append_of_ne_nil (nonempty : front ≠ []) (rest : Bytes) :
    (front ++ rest).head? = front.head? := by
  cases front with
  | nil => exact absurd rfl nonempty
  | cons char front => rfl

theorem stopsAt_front (absent : slash ∉ name) (other : front ≠ owner.pwDir) (nonempty : front ≠ []) :
    stopsAt owner (front ++ slash :: name) = stopsAt owner front := by
  rw [stopsAt, stopsAt, head?_append_of_ne_nil nonempty]
  simp only [spelled_front absent other]

/-- A home directory spelled as the path begins has a slash behind it. -/
theorem Spelled.slash_mem {path : Bytes} (spelled : Spelled owner path) : slash ∈ path :=
  spelled.2.subset (by simp)

variable (owner front) in
/-- The walk stops where the names in front are used up: at the root, at a first
name, or at the home directory. -/
theorem stopsAt_le (absent : slash ∉ name) :
    stopsAt owner (front ++ slash :: name) ≤ (names front).length := by
  rw [stopsAt]
  split
  · rename_i spelled
    by_cases same : front = owner.pwDir
    · exact Nat.le_of_eq (by rw [same])
    · obtain ⟨_, tail, rfl⟩ := (spelled_front absent same).1 spelled
      rw [List.append_assoc, List.singleton_append, names_append_slash, List.length_append]
      exact Nat.le_add_right _ _
  · split
    · exact Nat.zero_le _
    · rename_i relative
      cases front with
      | nil => exact absurd rfl relative
      | cons char front =>
        exact List.length_pos_iff.2 (names_ne_nil (List.cons_ne_nil _ _) relative)

/-- The walk ends at this directory: no further one is looked at. -/
def EndsAt (owner : KeyOwner) (front : Bytes) : Prop :=
  front = [] ∨ front = owner.pwDir ∨ front = [slash] ∨ slash ∉ front

theorem stopsAt_of_endsAt (absent : slash ∉ name) (ends : EndsAt owner front) :
    stopsAt owner (front ++ slash :: name) = (names front).length := by
  apply Nat.le_antisymm (stopsAt_le owner front absent)
  by_cases empty : front = []
  · rw [empty]
    exact Nat.zero_le _
  · rcases ends with empty' | rfl | rfl | noSlash
    · exact absurd empty' empty
    · exact Nat.le_of_eq (by rw [stopsAt, if_pos ⟨empty, name, by simp⟩])
    · exact Nat.zero_le _
    · rw [names_of_noSlash noSlash, if_neg empty]
      have relative : (front ++ slash :: name).head? ≠ some slash := by
        rw [head?_append_of_ne_nil empty]
        exact fun first => noSlash (List.mem_of_head? first)
      by_cases same : front = owner.pwDir
      · exact Nat.le_of_eq (by rw [stopsAt, if_pos ⟨same ▸ empty, name, by simp [same]⟩, ← same,
          names_of_noSlash noSlash, if_neg empty])
      · have unspelled : ¬ Spelled owner (front ++ slash :: name) := fun spelled =>
          noSlash ((spelled_front absent same).1 spelled).slash_mem
        rw [stopsAt, if_neg unspelled, if_neg relative]
        exact Nat.le_refl 1

variable (fs : FileSystem)

theorem base_front (nonempty : front ≠ []) (rest : Bytes) :
    fs.base (front ++ rest) = fs.base front := by
  rw [FileSystem.base, FileSystem.base, head?_append_of_ne_nil nonempty]

/-- Where the walk ends, only this directory is looked at. -/
theorem walkOkay_of_endsAt (absent : slash ∉ name) (ends : EndsAt owner front) :
    WalkOkay fs owner (front ++ slash :: name) front ↔
      isOkay owner.pwUid (fs.lookup (fs.base (front ++ slash :: name) ++ names front)) := by
  rw [WalkOkay, stopsAt_of_endsAt absent ends]
  constructor
  · intro okay
    have here := okay _ (Nat.le_refl _) (Nat.le_refl _)
    rwa [List.take_length] at here
  · intro okay k low high
    rwa [Nat.le_antisymm high low, List.take_length]

/-- Elsewhere the walk looks at this directory and goes on. -/
theorem walkOkay_of_not_endsAt {front' name' : Bytes} (absent : slash ∉ name)
    (absent' : slash ∉ name') (going : ¬ EndsAt owner (front' ++ slash :: name')) :
    WalkOkay fs owner (front' ++ slash :: name' ++ slash :: name) (front' ++ slash :: name') ↔
      isOkay owner.pwUid (fs.lookup (fs.place (front' ++ slash :: name'))) ∧
        WalkOkay fs owner (front' ++ slash :: name') front' := by
  simp only [EndsAt, not_or] at going
  obtain ⟨nonempty, other, -, -⟩ := going
  have bound := stopsAt_le owner front' absent'
  have split := names_append_slash front' name'
  have short : (names name').length ≤ 1 := by
    rw [names_of_noSlash absent']
    split
    · exact Nat.zero_le _
    · exact Nat.le_refl _
  rw [WalkOkay, WalkOkay, stopsAt_front absent other nonempty, base_front fs nonempty,
    FileSystem.place]
  have length : (names (front' ++ slash :: name')).length =
      (names front').length + (names name').length := by rw [split, List.length_append]
  constructor
  · intro okay
    constructor
    · have here := okay _ (by omega) (Nat.le_refl _)
      rwa [List.take_length] at here
    · intro k low high
      have here := okay k low (by omega)
      rwa [split, List.take_append_of_le_length high] at here
  · rintro ⟨here, above⟩ k low high
    by_cases inside : k ≤ (names front').length
    · rw [split, List.take_append_of_le_length inside]
      exact above k low inside
    · rwa [List.take_of_length_le (by omega)]

/-- What one round checks: the directory in front of the last slash. -/
theorem stat_take_front (front name : Bytes) :
    fs.stat ((front ++ slash :: name).take (if front.length = 0 then 1 else front.length)) =
      fs.lookup (fs.base (front ++ slash :: name) ++ names front) := by
  by_cases empty : front = []
  · subst empty
    rfl
  · rw [if_neg (by simpa using empty), List.take_left, FileSystem.stat, if_neg empty,
      FileSystem.place, base_front fs empty]

variable (owner front) in
/-- One round of the loop. -/
theorem checkpubkeypermsLoop_succ (fuel : Nat) (absent : slash ∉ name) (ret : Bool)
    (perm : PermLog) :
    ∃ perm', (checkpubkeypermsLoop fs owner (fuel + 1) (front ++ slash :: name) ret perm).1 =
      let dir := (front ++ slash :: name).take (if front.length = 0 then 1 else front.length)
      let okay := isOkay owner.pwUid
        (fs.lookup (fs.base (front ++ slash :: name) ++ names front))
      if dir = owner.pwDir ∨ dir = [slash] then some (ret && okay)
      else (checkpubkeypermsLoop fs owner fuel dir (ret && okay) perm').1 := by
  rw [checkpubkeypermsLoop, strrchr_append front absent]
  dsimp only
  rw [← stat_take_front fs front name]
  generalize (front ++ slash :: name).take (if front.length = 0 then 1 else front.length) = dir
  refine ⟨(checkfileperm fs owner dir perm).2, ?_⟩
  rw [← fst_checkfileperm fs owner dir perm]
  by_cases ends : dir = owner.pwDir ∨ dir = [slash]
  · simp only [if_pos ends]
    rfl
  · simp only [if_neg ends]
    rfl

/-- **The loop ends, and returns whether all it has looked at is okay.** -/
theorem checkpubkeypermsLoop_eq (fuel : Nat) (absent : slash ∉ name) (enough : front.length < fuel)
    (ret : Bool) (perm : PermLog) :
    ∃ walked, (checkpubkeypermsLoop fs owner fuel (front ++ slash :: name) ret perm).1 =
        some (ret && walked) ∧
      (walked = true ↔ WalkOkay fs owner (front ++ slash :: name) front) := by
  induction fuel generalizing front name ret perm with
  | zero => exact absurd enough (Nat.not_lt_zero _)
  | succ fuel ih =>
    obtain ⟨perm', step⟩ := checkpubkeypermsLoop_succ owner front fs fuel absent ret perm
    dsimp only at step
    rw [step]
    by_cases empty : front = []
    · subst empty
      rw [if_pos (.inr rfl)]
      exact ⟨_, rfl, (walkOkay_of_endsAt fs absent (.inl rfl)).symm⟩
    · have cut : (front ++ slash :: name).take (if front.length = 0 then 1 else front.length) =
          front := by rw [if_neg (by simpa using empty), List.take_left]
      rw [cut]
      by_cases ends : front = owner.pwDir ∨ front = [slash]
      · rw [if_pos ends]
        refine ⟨_, rfl, (walkOkay_of_endsAt fs absent ?_).symm⟩
        exact ends.elim (fun home => .inr (.inl home)) fun root => .inr (.inr (.inl root))
      · rw [if_neg ends]
        cases found : strrchr slash front with
        | none =>
          have noSlash := strrchr_eq_none.1 found
          have pos := List.length_pos_iff.2 empty
          obtain ⟨fuel, rfl⟩ := Nat.exists_eq_add_of_lt (Nat.lt_of_lt_of_le pos
            (Nat.le_of_lt_succ enough))
          rw [checkpubkeypermsLoop, found]
          exact ⟨_, rfl, (walkOkay_of_endsAt fs absent (.inr (.inr (.inr noSlash)))).symm⟩
        | some sep =>
          obtain ⟨front', name', rfl, absent', rfl⟩ := exists_of_strrchr found
          have going : ¬ EndsAt owner (front' ++ slash :: name') := by
            rw [not_or] at ends
            simp [EndsAt, ends]
          have shorter : front'.length < fuel := by
            rw [List.length_append, List.length_cons] at enough
            omega
          obtain ⟨walked, returned, okay⟩ := ih absent' shorter _ perm'
          refine ⟨_, by rw [returned, Bool.and_assoc], ?_⟩
          rw [walkOkay_of_not_endsAt fs absent absent' going, Bool.and_eq_true, okay,
            base_front fs empty]
          rfl

end Walk

/-! ## The rule -/

section Rule

variable (fs : FileSystem) (owner : KeyOwner) (authorizedKeysDir : Bytes)

/-- The place of the directory with the authorized keys. -/
def keysDirectory : List Bytes :=
  fs.base (authorizedKeysFilepath authorizedKeysDir owner.pwDir) ++
    names (expandHomedirPathHome authorizedKeysDir owner.pwDir)

/-- The path lies inside the home directory. -/
def InsideHome : Prop :=
  owner.pwDir ≠ [] ∧ fs.place owner.pwDir <+: keysDirectory fs owner authorizedKeysDir

/-- What the comment of the function asks for: the file and every directory on its
path, up to the home directory if it lies inside and up to the root otherwise, are
owned by the user or root and only writable by their owner. -/
structure PermissionRule : Prop where
  file : isOkay owner.pwUid (fs.stat (authorizedKeysFilepath authorizedKeysDir owner.pwDir))
  dirs : ∀ dir, dir <+: keysDirectory fs owner authorizedKeysDir →
    (InsideHome fs owner authorizedKeysDir → fs.place owner.pwDir <+: dir) →
      isOkay owner.pwUid (fs.lookup dir)

/-- The path begins with the home directory, as it is spelled in the password
database. -/
def HomeSpelled : Prop := Spelled owner (authorizedKeysFilepath authorizedKeysDir owner.pwDir)

/-- The path does not begin with a slash. -/
def Relative : Prop := (authorizedKeysFilepath authorizedKeysDir owner.pwDir).head? ≠ some slash

/-- The directories that the walk looks at: those on the path, up to the home
directory if it is spelled, else up to the beginning of the path. -/
def Looked (dir : List Bytes) : Prop :=
  dir <+: keysDirectory fs owner authorizedKeysDir ∧
    (HomeSpelled owner authorizedKeysDir → fs.place owner.pwDir <+: dir) ∧
      (¬ HomeSpelled owner authorizedKeysDir → Relative owner authorizedKeysDir →
        fs.cwd.length < dir.length)

/-- The directories of the rule above a relative path: the working directory and
those above it. -/
def Skipped (dir : List Bytes) : Prop :=
  ¬ HomeSpelled owner authorizedKeysDir ∧ Relative owner authorizedKeysDir ∧ dir <+: fs.cwd ∧
    (InsideHome fs owner authorizedKeysDir → fs.place owner.pwDir <+: dir)

/-- The directories above a home directory that contains the path but is spelled in
another way. -/
def Extra (dir : List Bytes) : Prop :=
  ¬ HomeSpelled owner authorizedKeysDir ∧ InsideHome fs owner authorizedKeysDir ∧
    dir <+: keysDirectory fs owner authorizedKeysDir ∧ ¬ fs.place owner.pwDir <+: dir ∧
      (Relative owner authorizedKeysDir → fs.cwd.length < dir.length)

/-- What has to be true of the files so that the walk decides by the rule. -/
structure WalkDecides : Prop where
  /-- The file itself is okay if the directories looked at are. -/
  file : (∀ dir, Looked fs owner authorizedKeysDir dir → isOkay owner.pwUid (fs.lookup dir)) →
    isOkay owner.pwUid (fs.stat (authorizedKeysFilepath authorizedKeysDir owner.pwDir))
  /-- So are the directories that a relative path leaves out. -/
  skipped : (∀ dir, Looked fs owner authorizedKeysDir dir → isOkay owner.pwUid (fs.lookup dir)) →
    ∀ dir, Skipped fs owner authorizedKeysDir dir → isOkay owner.pwUid (fs.lookup dir)
  /-- So are the directories above a home directory spelled in another way, if the
  rule is met. -/
  extra : PermissionRule fs owner authorizedKeysDir →
    ∀ dir, Extra fs owner authorizedKeysDir dir → isOkay owner.pwUid (fs.lookup dir)

end Rule

/-- The beginnings of a list that go beyond the first part. -/
theorem prefix_append_and_le_iff {α : Type} {base rest dir : List α} {m : Nat} :
    dir <+: base ++ rest ∧ base.length + m ≤ dir.length ↔
      ∃ k, m ≤ k ∧ k ≤ rest.length ∧ dir = base ++ rest.take k := by
  constructor
  · rintro ⟨begins, long⟩
    have short := begins.length_le
    rw [List.length_append] at short
    refine ⟨dir.length - base.length, by omega, by omega, ?_⟩
    have whole := List.prefix_iff_eq_take.1 begins
    rwa [List.take_append, List.take_of_length_le (by omega)] at whole
  · rintro ⟨k, low, high, rfl⟩
    refine ⟨?_, ?_⟩
    · exact (List.prefix_append_right_inj base).2 (List.take_prefix _ _)
    · rw [List.length_append, List.length_take]
      omega

section Decision

variable {fs : FileSystem} {owner : KeyOwner} {authorizedKeysDir : Bytes}

theorem slash_notMem_filename : slash ∉ ascii "authorized_keys" := by decide

theorem HomeSpelled.names_prefix (spelled : HomeSpelled owner authorizedKeysDir) :
    names owner.pwDir <+: names (expandHomedirPathHome authorizedKeysDir owner.pwDir) := by
  by_cases same : expandHomedirPathHome authorizedKeysDir owner.pwDir = owner.pwDir
  · exact ⟨[], by rw [same, List.append_nil]⟩
  · obtain ⟨tail, front⟩ := prefix_of_append_noSlash slash_notMem_filename same spelled.2
    rw [← front, List.append_assoc, List.singleton_append, names_append_slash]
    exact List.prefix_append _ _

variable (fs) in
theorem HomeSpelled.place_eq (spelled : HomeSpelled owner authorizedKeysDir) :
    fs.place owner.pwDir =
      fs.base (authorizedKeysFilepath authorizedKeysDir owner.pwDir) ++ names owner.pwDir := by
  obtain ⟨nonempty, tail, path⟩ := spelled
  rw [← path, List.append_assoc, base_front fs nonempty]
  rfl

variable (fs) in
/-- A home directory that is spelled contains the path. -/
theorem HomeSpelled.insideHome (spelled : HomeSpelled owner authorizedKeysDir) :
    InsideHome fs owner authorizedKeysDir := by
  refine ⟨spelled.1, ?_⟩
  rw [spelled.place_eq fs, keysDirectory]
  exact (List.prefix_append_right_inj _).2 spelled.names_prefix

/-- Of two beginnings of one list, the shorter one begins the longer one. -/
theorem prefix_iff_length_le {α : Type} {first second whole : List α} (begins : first <+: whole)
    (begins' : second <+: whole) : first <+: second ↔ first.length ≤ second.length :=
  ⟨fun inside => inside.length_le, fun short => List.prefix_of_prefix_length_le begins begins' short⟩

theorem looked_iff (dir : List Bytes) :
    Looked fs owner authorizedKeysDir dir ↔
      dir <+: keysDirectory fs owner authorizedKeysDir ∧
        (fs.base (authorizedKeysFilepath authorizedKeysDir owner.pwDir)).length +
          stopsAt owner (authorizedKeysFilepath authorizedKeysDir owner.pwDir) ≤ dir.length := by
  rw [Looked]
  refine and_congr_right fun begins => ?_
  by_cases spelled : HomeSpelled owner authorizedKeysDir
  · have inside := (spelled.insideHome fs).2
    have stops : stopsAt owner (authorizedKeysFilepath authorizedKeysDir owner.pwDir) =
        (names owner.pwDir).length := if_pos spelled
    simp only [spelled, true_implies, not_true, false_implies, and_true]
    rw [prefix_iff_length_le inside begins, spelled.place_eq fs, List.length_append, stops]
  · have stops : stopsAt owner (authorizedKeysFilepath authorizedKeysDir owner.pwDir) =
        if (authorizedKeysFilepath authorizedKeysDir owner.pwDir).head? = some slash then 0
        else 1 := if_neg spelled
    simp only [spelled, false_implies, true_and, not_false_eq_true, true_implies]
    rw [stops, FileSystem.base, Relative]
    by_cases absolute : (authorizedKeysFilepath authorizedKeysDir owner.pwDir).head? = some slash
    · simp [absolute]
    · simp only [absolute, if_false, ne_eq, not_false_eq_true, true_implies]
      exact Iff.rfl

/-- The walk looks at the directories it is said to look at. -/
theorem walkOkay_iff_looked :
    WalkOkay fs owner (authorizedKeysFilepath authorizedKeysDir owner.pwDir)
        (expandHomedirPathHome authorizedKeysDir owner.pwDir) ↔
      ∀ dir, Looked fs owner authorizedKeysDir dir → isOkay owner.pwUid (fs.lookup dir) := by
  simp only [looked_iff, keysDirectory, prefix_append_and_le_iff]
  constructor
  · rintro okay dir ⟨k, low, high, rfl⟩
    exact okay k low high
  · intro okay k low high
    exact okay _ ⟨k, low, high, rfl⟩

theorem Relative.base_eq (relative : Relative owner authorizedKeysDir) :
    fs.base (authorizedKeysFilepath authorizedKeysDir owner.pwDir) = fs.cwd := if_neg relative

variable {dir : List Bytes}

/-- A directory of the rule is looked at or skipped. -/
theorem looked_or_skipped (begins : dir <+: keysDirectory fs owner authorizedKeysDir)
    (inside : InsideHome fs owner authorizedKeysDir → fs.place owner.pwDir <+: dir) :
    Looked fs owner authorizedKeysDir dir ∨ Skipped fs owner authorizedKeysDir dir := by
  by_cases spelled : HomeSpelled owner authorizedKeysDir
  · exact .inl ⟨begins, fun spelled => inside (spelled.insideHome fs), absurd spelled⟩
  · by_cases above : Relative owner authorizedKeysDir ∧ dir.length ≤ fs.cwd.length
    · refine .inr ⟨spelled, above.1, ?_, inside⟩
      rw [keysDirectory, above.1.base_eq] at begins
      exact List.prefix_of_prefix_length_le begins (List.prefix_append _ _) above.2
    · refine .inl ⟨begins, fun spelled' => absurd spelled' spelled, fun _ relative => ?_⟩
      exact Nat.lt_of_not_le fun short => above ⟨relative, short⟩

theorem Skipped.prefix_keysDirectory (skipped : Skipped fs owner authorizedKeysDir dir) :
    dir <+: keysDirectory fs owner authorizedKeysDir := by
  rw [keysDirectory, skipped.2.1.base_eq]
  exact skipped.2.2.1.trans (List.prefix_append _ _)

/-- A directory that is looked at belongs to the rule or is an extra one. -/
theorem Looked.inside_or_extra (looked : Looked fs owner authorizedKeysDir dir) :
    (InsideHome fs owner authorizedKeysDir → fs.place owner.pwDir <+: dir) ∨
      Extra fs owner authorizedKeysDir dir := by
  by_cases outside : InsideHome fs owner authorizedKeysDir ∧ ¬ fs.place owner.pwDir <+: dir
  · have unspelled : ¬ HomeSpelled owner authorizedKeysDir := fun spelled =>
      outside.2 (looked.2.1 spelled)
    exact .inr ⟨unspelled, outside.1, looked.1, outside.2, looked.2.2 unspelled⟩
  · exact .inl fun inside => not_not.1 fun other => outside ⟨inside, other⟩

theorem Extra.looked (extra : Extra fs owner authorizedKeysDir dir) :
    Looked fs owner authorizedKeysDir dir :=
  ⟨extra.2.2.1, fun spelled => absurd spelled extra.1, fun _ => extra.2.2.2.2⟩

end Decision

/-- **The walk ends for every path.  It decides by the rule exactly if the file and
the directories it leaves out are okay whenever those it looks at are, and the
directories that it looks at beyond the rule are okay whenever the rule is met.** -/
theorem checkpubkeyperms_decides_iff (fs : FileSystem) (owner : KeyOwner)
    (authorizedKeysDir : Bytes) (perm : PermLog) :
    ∃ ret, (checkpubkeyperms fs owner authorizedKeysDir perm).1 = some ret ∧
      ((ret = true ↔ PermissionRule fs owner authorizedKeysDir) ↔
        WalkDecides fs owner authorizedKeysDir) := by
  have enough : (expandHomedirPathHome authorizedKeysDir owner.pwDir).length <
      (authorizedKeysFilepath authorizedKeysDir owner.pwDir).length + 1 := by
    rw [authorizedKeysFilepath, List.length_append]
    omega
  obtain ⟨walked, returned, okay⟩ :=
    checkpubkeypermsLoop_eq fs _ slash_notMem_filename enough true perm
  rw [Bool.true_and] at returned
  refine ⟨walked, returned, ?_⟩
  rw [okay.trans walkOkay_iff_looked]
  constructor
  · intro decides
    constructor
    · intro looked
      exact (decides.1 looked).file
    · intro looked dir skipped
      exact (decides.1 looked).dirs dir skipped.prefix_keysDirectory skipped.2.2.2
    · intro rule dir extra
      exact decides.2 rule dir extra.looked
  · intro decides
    constructor
    · intro looked
      refine ⟨decides.file looked, fun dir begins inside => ?_⟩
      rcases looked_or_skipped begins inside with seen | skipped
      · exact looked dir seen
      · exact decides.skipped looked dir skipped
    · intro rule dir seen
      rcases seen.inside_or_extra with inside | extra
      · exact rule.dirs dir seen.1 inside
      · exact decides.extra rule dir extra

/-! ## A file that anyone may write to -/

/-- All directories belong to root.  The file belongs to the user, and everyone may
write to it. -/
def openFile : FileSystem where
  lookup dir :=
    if dir = [ascii "home", ascii "user", ascii ".ssh", ascii "authorized_keys"] then
      some { stUid := 1000, stMode := 0o100666 }
    else some { stUid := 0, stMode := 0o40755 }
  cwd := []

def fileOwner : KeyOwner where
  pwUid := 1000
  pwDir := ascii "/home/user"

/-- The file is never looked at. -/
theorem checkpubkeyperms_openFile :
    (checkpubkeyperms openFile fileOwner (ascii "~/.ssh")
        { permWarn := false, log := [] }).1 = some true ∧
      ¬ PermissionRule openFile fileOwner (ascii "~/.ssh") := by
  refine ⟨by decide +kernel, fun rule => ?_⟩
  exact absurd rule.file (by decide +kernel)

end Dropbear.Auth
