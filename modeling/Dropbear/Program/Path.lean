/-
# Paths

A path is a string of names with slashes in between.  Cutting it off at its last
slash leaves the path of the directory.  What a path names only depends on its
names and on whether it begins with a slash.
-/

import Dropbear.Program.Bytes

namespace Dropbear.Program

def slash : UInt8 := '/'.toUInt8

/-- The place of the last occurrence of a character. -/
def strrchr (char : UInt8) : Bytes → Option Nat
  | [] => none
  | first :: rest =>
    match strrchr char rest with
    | some place => some (place + 1)
    | none => if first = char then some 0 else none

variable {path : Bytes} {char : UInt8}

theorem strrchr_eq_none : strrchr char path = none ↔ char ∉ path := by
  induction path with
  | nil => simp [strrchr]
  | cons first rest ih =>
    rw [strrchr, List.mem_cons, not_or]
    cases found : strrchr char rest with
    | some place =>
      have there : ¬ char ∉ rest := fun absent => by
        rw [ih.2 absent] at found
        cases found
      exact ⟨nofun, fun absent => absurd absent.2 there⟩
    | none =>
      have absent := ih.1 found
      by_cases same : first = char
      · simp [same]
      · simp [same, absent, Ne.symm same]

/-- The string is cut in two at the last occurrence. -/
theorem exists_of_strrchr {place : Nat} (found : strrchr char path = some place) :
    ∃ front name, path = front ++ char :: name ∧ char ∉ name ∧ place = front.length := by
  induction path generalizing place with
  | nil => cases found
  | cons first rest ih =>
    rw [strrchr] at found
    cases later : strrchr char rest with
    | some place' =>
      rw [later] at found
      obtain ⟨front, name, rfl, absent, rfl⟩ := ih later
      cases found
      exact ⟨first :: front, name, rfl, absent, rfl⟩
    | none =>
      rw [later] at found
      by_cases same : first = char
      · simp only [same, if_true, Option.some.injEq] at found
        exact ⟨[], rest, by rw [same]; rfl, strrchr_eq_none.1 later, found.symm⟩
      · simp [same] at found

variable {name : Bytes}

theorem strrchr_append (front : Bytes) (absent : char ∉ name) :
    strrchr char (front ++ char :: name) = some front.length := by
  induction front with
  | nil => simp [strrchr, strrchr_eq_none.2 absent]
  | cons first front ih =>
    rw [List.cons_append, strrchr, ih]
    rfl

/-- A path that begins with a directory and a slash begins with it before its last
slash, unless the directory is all that stands there. -/
theorem prefix_of_append_noSlash {dir front name : Bytes} (absent : slash ∉ name)
    (other : front ≠ dir) (begins : dir ++ [slash] <+: front ++ slash :: name) :
    dir ++ [slash] <+: front := by
  have whole : front ++ [slash] <+: front ++ slash :: name := ⟨name, by simp⟩
  rcases List.prefix_or_prefix_of_prefix begins whole with shorter | longer
  · rcases List.prefix_concat_iff.1 shorter with same | inside
    · exact absurd (List.append_cancel_right same).symm other
    · exact inside
  · rcases List.prefix_concat_iff.1 longer with same | ⟨rest, inside⟩
    · exact absurd (List.append_cancel_right same) other
    · obtain ⟨tail, path⟩ := begins
      have name_eq : name = rest ++ slash :: tail := by
        rw [← inside] at path
        simpa using path.symm
      exact absurd (by rw [name_eq]; simp) absent

/-- The names of a path, from `current` which has been read already. -/
def namesFrom (current : Bytes) : Bytes → List Bytes
  | [] => if current = [] then [] else [current]
  | char :: rest =>
    if char = slash then (if current = [] then [] else [current]) ++ namesFrom [] rest
    else namesFrom (current ++ [char]) rest

/-- The names in a path.  Repeated slashes and a slash at the end add none. -/
def names (path : Bytes) : List Bytes := namesFrom [] path

theorem namesFrom_append_slash (current front rest : Bytes) :
    namesFrom current (front ++ slash :: rest) = namesFrom current front ++ namesFrom [] rest := by
  induction front generalizing current with
  | nil => simp [namesFrom]
  | cons char front ih =>
    rw [List.cons_append, namesFrom, namesFrom]
    split
    · rw [ih, List.append_assoc]
    · exact ih _

theorem names_append_slash (front rest : Bytes) :
    names (front ++ slash :: rest) = names front ++ names rest :=
  namesFrom_append_slash [] front rest

theorem namesFrom_of_noSlash (absent : slash ∉ name) (current : Bytes) :
    namesFrom current name = if current ++ name = [] then [] else [current ++ name] := by
  induction name generalizing current with
  | nil => rw [List.append_nil, namesFrom]
  | cons char rest ih =>
    rw [List.mem_cons, not_or] at absent
    rw [namesFrom, if_neg (Ne.symm absent.1), ih absent.2, List.append_assoc]
    rfl

/-- What follows the last slash is one name, or none if nothing follows. -/
theorem names_of_noSlash (absent : slash ∉ name) :
    names name = if name = [] then [] else [name] :=
  namesFrom_of_noSlash absent []

/-- A path that does not begin with a slash begins with a name. -/
theorem names_ne_nil (nonempty : path ≠ []) (relative : path.head? ≠ some slash) :
    names path ≠ [] := by
  have later : ∀ (path current : Bytes), current ≠ [] → namesFrom current path ≠ [] := by
    intro path
    induction path with
    | nil =>
      intro current started
      rw [namesFrom, if_neg started]
      exact List.cons_ne_nil _ _
    | cons char rest ih =>
      intro current started
      by_cases separator : char = slash
      · simp [namesFrom, separator, started]
      · rw [namesFrom, if_neg separator]
        exact ih _ (by simp)
  cases path with
  | nil => exact absurd rfl nonempty
  | cons char rest =>
    have other : char ≠ slash := by simpa using relative
    rw [names, namesFrom, if_neg other]
    exact later rest _ (by simp)

end Dropbear.Program
