/-
# What the two sides pick

Both sides look for the first usable name of the client that is usable at the
server, and both find it.  Each looks through the pair of lists from its own end:
its own list has holes, the other one does not.  The place of the match in the
list is what decides whether the client's guess counts as right, so there the two
views can differ.
-/

import Dropbear.Kex.Algo

namespace Dropbear.Kex

open Program

variable {α β : Type}

/-! ## Names -/

/-- The names of the usable entries, in order. -/
def usableNames (algos : List (Algo α)) : List Bytes := (algos.filter (·.usable)).map (·.name)

/-- The names as one string. -/
def joinedNames (algos : List (Algo α)) : Bytes := [comma].intercalate (usableNames algos)

/-- A name that can stand in a list. -/
structure IsName (name : Bytes) : Prop where
  nonempty : name ≠ []
  no_comma : comma ∉ name
  no_null : 0 ∉ name

/-- A table whose entries all have different names, few enough for a list. -/
structure WellFormed (algos : List (Algo α)) : Prop where
  few : algos.length ≤ maxProposedAlgo
  names : ∀ algo ∈ algos, IsName algo.name
  distinct : (algos.map (·.name)).Nodup

theorem reduceOption_localNames (algos : List (Algo α)) :
    (localNames algos).reduceOption = usableNames algos := by
  induction algos with
  | nil => rfl
  | cons algo rest ih =>
    cases usable : algo.usable with
    | true =>
      simp only [localNames, usableNames, List.map_cons, usable, if_true,
        List.reduceOption_cons_of_some, List.filter_cons_of_pos] at ih ⊢
      rw [ih]
    | false =>
      simp only [localNames, usableNames, List.map_cons, usable, Bool.false_eq_true, if_false,
        List.reduceOption_cons_of_none, List.filter_cons_of_neg, not_false_eq_true] at ih ⊢
      exact ih

variable {algos : List (Algo α)} {name : Bytes}

theorem mem_usableNames :
    name ∈ usableNames algos ↔ ∃ algo ∈ algos, algo.usable ∧ algo.name = name := by
  simp [usableNames, and_assoc]

theorem WellFormed.usable_isName (wellFormed : WellFormed algos)
    (offered : name ∈ usableNames algos) : IsName name := by
  obtain ⟨algo, there, _, rfl⟩ := mem_usableNames.1 offered
  exact wellFormed.names algo there

theorem WellFormed.length_usableNames (wellFormed : WellFormed algos) :
    (usableNames algos).length ≤ maxProposedAlgo := by
  rw [usableNames, List.length_map]
  exact Nat.le_trans (List.length_filter_le _ _) wellFormed.few

/-! ## The loops -/

/-- The inner loop finds the place of the client's name. -/
theorem matchServer_eq (name : Bytes) (servnames : List (Option Bytes)) (j : Nat) :
    matchServer (some name) servnames j =
      if some name ∈ servnames then some (j + servnames.idxOf (some name)) else none := by
  induction servnames generalizing j with
  | nil => rfl
  | cons servname rest ih =>
    cases servname with
    | none =>
      have step : matchServer (some name) (none :: rest) j =
          matchServer (some name) rest (j + 1) := rfl
      rw [step, ih, List.idxOf_cons_ne rest (by simp)]
      simp [Nat.add_assoc, Nat.add_comm 1]
    | some serv =>
      by_cases same : serv = name
      · subst same
        simp [matchServer]
      · have step : matchServer (some name) (some serv :: rest) j =
            matchServer (some name) rest (j + 1) := by simp [matchServer, same]
        rw [step, ih, List.idxOf_cons_ne rest (by simpa using same)]
        simp [Ne.symm same, Nat.add_assoc, Nat.add_comm 1]

theorem matchServer_none (servnames : List (Option Bytes)) (j : Nat) :
    matchServer none servnames j = none := by
  induction servnames generalizing j with
  | nil => rfl
  | cons servname rest ih =>
    cases servname with
    | none => exact ih (j + 1)
    | some serv => exact ih (j + 1)

/-- The algorithm to use: the first name of the client that the server has. -/
def agreedName (clinames servnames : List Bytes) : Option Bytes :=
  clinames.find? (decide <| · ∈ servnames)

/-- The outer loop finds the agreed name, and its places in the two lists. -/
theorem matchClient_eq (servnames clinames : List (Option Bytes)) (i : Nat) :
    matchClient servnames clinames i =
      (agreedName clinames.reduceOption servnames.reduceOption).map fun name =>
        (i + clinames.idxOf (some name), servnames.idxOf (some name)) := by
  induction clinames generalizing i with
  | nil => rfl
  | cons cliname rest ih =>
    cases cliname with
    | none =>
      have step : matchClient servnames (none :: rest) i =
          matchClient servnames rest (i + 1) := by simp [matchClient, matchServer_none]
      rw [step, ih, List.reduceOption_cons_of_none]
      refine Option.map_congr fun name _ => ?_
      rw [List.idxOf_cons_ne rest (by simp)]
      simp [Nat.add_assoc, Nat.add_comm 1]
    | some name =>
      rw [List.reduceOption_cons_of_some, agreedName]
      by_cases there : name ∈ servnames.reduceOption
      · have place := List.reduceOption_mem_iff.1 there
        rw [List.find?_cons_of_pos (by simpa using there)]
        simp [matchClient, matchServer_eq, place]
      · have absent : some name ∉ servnames := fun place =>
          there (List.reduceOption_mem_iff.2 place)
        have step : matchClient servnames (some name :: rest) i =
            matchClient servnames rest (i + 1) := by
          simp [matchClient, matchServer_eq, absent]
        rw [step, ih, List.find?_cons_of_neg (by simpa using there)]
        refine Option.map_congr fun other found => ?_
        have differs : name ≠ other := by
          rintro rfl
          exact there (by simpa using List.find?_some found)
        rw [List.idxOf_cons_ne rest (by simpa using differs)]
        simp [Nat.add_assoc, Nat.add_comm 1]

/-! ## The list on the wire -/

/-- A name is read up to its end or the next comma. -/
theorem algolistLoop_name (no_comma : comma ∉ name) (no_null : 0 ∉ name) (found : List Bytes)
    (current rest : Bytes) :
    algolistLoop found current (name ++ rest) = algolistLoop found (current ++ name) rest := by
  induction name generalizing current with
  | nil => rw [List.nil_append, List.append_nil]
  | cons char name ih =>
    rw [List.mem_cons, not_or] at no_comma no_null
    rw [List.cons_append, algolistLoop, if_neg (Ne.symm no_null.1), if_neg (Ne.symm no_comma.1),
      ih no_comma.2 no_null.2, List.append_assoc]
    rfl

/-- Joined names are read back one by one. -/
theorem algolistLoop_intercalate (found : List Bytes) (name : Bytes) (names : List Bytes)
    (valid : ∀ other ∈ name :: names, comma ∉ other ∧ 0 ∉ other)
    (few : found.length + (name :: names).length ≤ maxProposedAlgo) :
    algolistLoop found [] ([comma].intercalate (name :: names)) = .ok (found ++ name :: names) := by
  induction names generalizing found name with
  | nil =>
    have here := valid name (.head _)
    have only : [comma].intercalate [name] = name ++ [] := by simp [List.intercalate]
    rw [only, algolistLoop_name here.1 here.2]
    rfl
  | cons second names ih =>
    have here := valid name (.head _)
    have split : [comma].intercalate (name :: second :: names) =
        name ++ (comma :: [comma].intercalate (second :: names)) := by
      simp [List.intercalate, List.intersperse]
    have room : ¬ found.length + 1 ≥ maxProposedAlgo := by
      simp only [List.length_cons] at few
      omega
    rw [split, algolistLoop_name here.1 here.2, algolistLoop, if_neg (by decide), if_pos rfl,
      if_neg room, List.nil_append, ih (found ++ [name]) second
        (fun other there => valid other (.tail _ there)) (by simp at few ⊢; omega)]
    simp

/-- Only an empty list is read as something else: as the empty name. -/
def receivedNames (algos : List (Algo α)) : List Bytes :=
  if usableNames algos = [] then [[]] else usableNames algos

theorem getAlgolist_joinedNames (wellFormed : WellFormed algos) :
    getAlgolist (joinedNames algos) = .ok (receivedNames algos) := by
  rw [getAlgolist, joinedNames, receivedNames]
  have few := wellFormed.length_usableNames
  have valid : ∀ name ∈ usableNames algos, comma ∉ name ∧ 0 ∉ name := by
    intro name offered
    have isName := wellFormed.usable_isName offered
    exact ⟨isName.no_comma, isName.no_null⟩
  cases names : usableNames algos with
  | nil => rfl
  | cons name rest =>
    rw [names] at few valid
    rw [algolistLoop_intercalate [] name rest valid (by simpa using few)]
    simp

/-! ## The entries that are picked -/

/-- The place of a usable name in the local list is the place of its entry. -/
theorem getElem?_idxOf_localNames (offered : name ∈ usableNames algos) :
    ∃ algo, algos[(localNames algos).idxOf (some name)]? = some algo ∧ algo.usable ∧
      algo.name = name := by
  induction algos with
  | nil => cases offered
  | cons algo rest ih =>
    by_cases here : algo.usable ∧ algo.name = name
    · refine ⟨algo, ?_, here⟩
      simp [localNames, here.1, here.2]
    · have later : name ∈ usableNames rest := by
        obtain ⟨other, there, usable, named⟩ := mem_usableNames.1 offered
        rcases List.mem_cons.1 there with rfl | there
        · exact absurd ⟨usable, named⟩ here
        · exact mem_usableNames.2 ⟨other, there, usable, named⟩
      obtain ⟨other, found, usable, named⟩ := ih later
      have skipped : (if algo.usable then some algo.name else none) ≠ some name := by
        intro same
        cases usable : algo.usable with
        | true =>
          rw [usable, if_pos rfl] at same
          exact here ⟨usable, Option.some.inj same⟩
        | false =>
          rw [usable, if_neg (by simp)] at same
          cases same
      refine ⟨other, ?_, usable, named⟩
      rw [localNames, List.map_cons, List.idxOf_cons_ne _ skipped, List.getElem?_cons_succ]
      exact found

variable {client : List (Algo α)} {servnames : List Bytes}

/-- The name `""` of an empty list is nobody's. -/
theorem agreedName_received_left (named : [] ∉ servnames) :
    agreedName (receivedNames client) servnames = agreedName (usableNames client) servnames := by
  rw [receivedNames]
  split
  · rename_i empty
    rw [empty, agreedName, agreedName, List.find?_cons_of_neg (by simpa using named)]
  · rfl

variable {clinames : List Bytes}

theorem agreedName_received_right {server : List (Algo α)} (named : [] ∉ clinames) :
    agreedName clinames (receivedNames server) = agreedName clinames (usableNames server) := by
  rw [receivedNames]
  split
  · rename_i empty
    rw [empty, agreedName, agreedName]
    have nothing : ∀ name ∈ clinames, name ∉ [([] : Bytes)] := by
      intro name there same
      rw [List.mem_singleton.1 same] at there
      exact named there
    rw [List.find?_eq_none.2 (by simpa using nothing), List.find?_eq_none.2 (by simp)]
  · rfl

theorem WellFormed.no_empty (wellFormed : WellFormed algos) :
    [] ∉ usableNames algos :=
  fun offered => (wellFormed.usable_isName offered).nonempty rfl

theorem reduceOption_map_some (names : List Bytes) : (names.map some).reduceOption = names := by
  induction names with
  | nil => rfl
  | cons name rest ih => rw [List.map_cons, List.reduceOption_cons_of_some, ih]

theorem idxOf_map_some (names : List Bytes) (name : Bytes) :
    (names.map some).idxOf (some name) = names.idxOf name := by
  induction names with
  | nil => rfl
  | cons first rest ih =>
    by_cases same : first = name
    · simp [same]
    · rw [List.map_cons, List.idxOf_cons_ne _ (by simpa using same), ih, List.idxOf_cons_ne _ same]

variable {server : List (Algo β)}

/-- The server's view of the client's list. -/
theorem pickAlgo_server (kexguess2 : Bool) (wellFormed : WellFormed server) :
    pickAlgo .server server kexguess2 (receivedNames client) =
      match agreedName (usableNames client) (usableNames server) with
      | none => (none, false)
      | some name =>
        (server[(localNames server).idxOf (some name)]?,
          isGoodguess kexguess2 ((receivedNames client).idxOf name)
            ((localNames server).idxOf (some name))) := by
  rw [pickAlgo, matchClient_eq, reduceOption_map_some, reduceOption_localNames,
    agreedName_received_left wellFormed.no_empty]
  cases agreedName (usableNames client) (usableNames server) with
  | none => rfl
  | some name =>
    dsimp only [Option.map_some]
    rw [Nat.zero_add, idxOf_map_some]

/-- The client's view of the server's list. -/
theorem pickAlgo_client (kexguess2 : Bool) (wellFormed : WellFormed client) :
    pickAlgo .client client kexguess2 (receivedNames server) =
      match agreedName (usableNames client) (usableNames server) with
      | none => (none, false)
      | some name =>
        (client[(localNames client).idxOf (some name)]?,
          isGoodguess kexguess2 ((localNames client).idxOf (some name))
            ((receivedNames server).idxOf name)) := by
  rw [pickAlgo, matchClient_eq, reduceOption_map_some, reduceOption_localNames,
    agreedName_received_right wellFormed.no_empty]
  cases agreedName (usableNames client) (usableNames server) with
  | none => rfl
  | some name =>
    dsimp only [Option.map_some]
    rw [Nat.zero_add, idxOf_map_some]

theorem agreedName_mem (agreed : agreedName clinames servnames = some name) :
    name ∈ clinames ∧ name ∈ servnames :=
  ⟨List.mem_of_find?_eq_some agreed, by simpa using List.find?_some agreed⟩

/-! ## The guess -/

/-- The first entry of the table is usable. -/
def firstUsable (algos : List (Algo α)) : Bool := algos.head?.any (·.usable)

/-- The two sides judge the guess alike.  With `kexguess2` only the client's name
counts: if its first usable name is the one, it has to be the first of the table
as well.  Without, it has to be the first of both sides, and then the tables have
to begin alike. -/
def GuessesAgree (kexguess2 : Bool) (client : List (Algo α)) (server : List (Algo β)) : Prop :=
  if kexguess2 then
    ∀ name, (usableNames client).head? = some name → name ∈ usableNames server → firstUsable client
  else
    ∀ name, (usableNames client).head? = some name → (usableNames server).head? = some name →
      firstUsable client = firstUsable server

theorem idxOf_eq_zero_iff {names : List Bytes} (there : name ∈ names) :
    names.idxOf name = 0 ↔ names.head? = some name := by
  cases names with
  | nil => cases there
  | cons first rest =>
    by_cases same : first = name
    · simp [same]
    · simp [List.idxOf_cons_ne rest same, same]

theorem idxOf_receivedNames_eq_zero (offered : name ∈ usableNames algos) :
    (receivedNames algos).idxOf name = 0 ↔ (usableNames algos).head? = some name := by
  rw [receivedNames, if_neg (List.ne_nil_of_mem offered)]
  exact idxOf_eq_zero_iff offered

/-- In the local list the first usable name is in the first place only if the
table begins with it. -/
theorem idxOf_localNames_eq_zero (offered : name ∈ usableNames algos) :
    (localNames algos).idxOf (some name) = 0 ↔
      firstUsable algos ∧ (usableNames algos).head? = some name := by
  cases algos with
  | nil => cases offered
  | cons algo rest =>
    cases usable : algo.usable with
    | true =>
      by_cases same : algo.name = name
      · simp [localNames, usableNames, firstUsable, usable, same]
      · have skipped : (some algo.name : Option Bytes) ≠ some name := by simpa using same
        simp [localNames, usableNames, firstUsable, usable, same, List.idxOf_cons_ne _ skipped]
    | false =>
      have skipped : (none : Option Bytes) ≠ some name := nofun
      simp [localNames, firstUsable, usable, List.idxOf_cons_ne _ skipped]

/-- A first name that the server has is the agreed one. -/
theorem agreedName_of_head (first : clinames.head? = some name) (there : name ∈ servnames) :
    agreedName clinames servnames = some name := by
  cases clinames with
  | nil => cases first
  | cons other rest =>
    cases first
    exact List.find?_cons_of_pos (by simpa using there)

/-- **The two flags are the same exactly if the guesses agree.** -/
theorem goodguess_eq_iff (kexguess2 : Bool) (clientFormed : WellFormed client)
    (serverFormed : WellFormed server) :
    (pickAlgo .server server kexguess2 (receivedNames client)).2 =
        (pickAlgo .client client kexguess2 (receivedNames server)).2 ↔
      GuessesAgree kexguess2 client server := by
  rw [pickAlgo_server kexguess2 serverFormed, pickAlgo_client kexguess2 clientFormed]
  cases agreed : agreedName (usableNames client) (usableNames server) with
  | none =>
    have never : ∀ name, (usableNames client).head? = some name → name ∉ usableNames server := by
      intro name first there
      rw [agreedName_of_head first there] at agreed
      cases agreed
    refine iff_of_true rfl ?_
    cases kexguess2 with
    | true => exact fun name first there => absurd there (never name first)
    | false => exact fun name first first' => absurd (List.mem_of_head? first') (never name first)
  | some name =>
    obtain ⟨offered, offered'⟩ := agreedName_mem agreed
    have place := idxOf_localNames_eq_zero offered
    have place' := idxOf_localNames_eq_zero offered'
    have received := idxOf_receivedNames_eq_zero offered
    have received' := idxOf_receivedNames_eq_zero offered'
    have only : ∀ other, (usableNames client).head? = some other → other ∈ usableNames server →
        other = name := by
      intro other first there
      rw [agreedName_of_head first there] at agreed
      exact Option.some.inj agreed
    cases kexguess2 with
    | true =>
      simp only [isGoodguess, if_true, place, received, decide_eq_decide, GuessesAgree]
      constructor
      · intro same other first there
        obtain rfl := only other first there
        exact (same.1 first).1
      · intro agree
        exact ⟨fun first => ⟨agree name first offered', first⟩, fun both => both.2⟩
    | false =>
      simp only [isGoodguess, Bool.false_eq_true, if_false, place, place', received, received',
        ← Bool.decide_and, decide_eq_decide, GuessesAgree]
      constructor
      · intro same other first first'
        obtain rfl := only other first (List.mem_of_head? first')
        rw [Bool.eq_iff_iff]
        exact ⟨fun begins => (same.2 ⟨⟨begins, first⟩, first'⟩).2.1,
          fun begins => (same.1 ⟨first, begins, first'⟩).1.1⟩
      · intro agree
        constructor
        · rintro ⟨first, begins, first'⟩
          exact ⟨⟨(agree name first first').trans begins, first⟩, first'⟩
        · rintro ⟨⟨begins, first⟩, first'⟩
          exact ⟨first, (agree name first first').symm.trans begins, first'⟩

/-! ## Writing and reading the lists -/

theorem intercalate_cons (name : Bytes) (names : List Bytes) :
    [comma].intercalate (name :: names) = name ++ names.flatMap (comma :: ·) := by
  induction names generalizing name with
  | nil => simp [List.intercalate]
  | cons second rest ih =>
    have split : [comma].intercalate (name :: second :: rest) =
        name ++ (comma :: [comma].intercalate (second :: rest)) := by
      simp [List.intercalate, List.intersperse]
    rw [split, ih second, List.flatMap_cons, List.cons_append]

/-- After the first name each further one has a comma in front. -/
theorem appends_putAlgoNames_true (algos : List (Algo α)) :
    Appends (putAlgoNames algos true) ((usableNames algos).flatMap (comma :: ·)) := by
  induction algos with
  | nil => exact Appends.pure
  | cons algo rest ih =>
    intro buf
    cases usable : algo.usable with
    | true =>
      have names : usableNames (algo :: rest) = algo.name :: usableNames rest := by
        simp [usableNames, usable]
      have bytes : [comma] ++ (algo.name ++ (usableNames rest).flatMap (comma :: ·)) =
          (usableNames (algo :: rest)).flatMap (comma :: ·) := by
        rw [names, List.flatMap_cons, List.cons_append]
        rfl
      have step : putAlgoNames (algo :: rest) true buf =
          (bufPutbyte buf comma >>= fun buf => bufPutbytes buf algo.name >>=
            putAlgoNames rest true) := by
        rw [putAlgoNames, if_pos usable]
        rfl
      rw [step, ← bytes]
      exact (appends_bufPutbyte comma).bind ((appends_bufPutbytes algo.name).bind ih) buf
    | false =>
      have names : usableNames (algo :: rest) = usableNames rest := by
        simp [usableNames, usable]
      rw [putAlgoNames, if_neg (by simp [usable]), names]
      exact ih buf

theorem appends_putAlgoNames (algos : List (Algo α)) :
    Appends (putAlgoNames algos false) (joinedNames algos) := by
  induction algos with
  | nil => exact Appends.pure
  | cons algo rest ih =>
    intro buf
    cases usable : algo.usable with
    | true =>
      have bytes : algo.name ++ (usableNames rest).flatMap (comma :: ·) =
          joinedNames (algo :: rest) := by
        have names : usableNames (algo :: rest) = algo.name :: usableNames rest := by
          simp [usableNames, usable]
        rw [joinedNames, names, intercalate_cons]
      have step : putAlgoNames (algo :: rest) false buf =
          (bufPutbytes buf algo.name >>= putAlgoNames rest true) := by
        rw [putAlgoNames, if_pos usable]
        rfl
      rw [step, ← bytes]
      exact (appends_bufPutbytes algo.name).bind (appends_putAlgoNames_true rest) buf
    | false =>
      have names : joinedNames (algo :: rest) = joinedNames rest := by
        simp [joinedNames, usableNames, usable]
      rw [putAlgoNames, if_neg (by simp [usable]), names]
      exact ih buf

theorem bufPutAlgolist_eq (buf : Buffer) (algos : List (Algo α)) :
    bufPutAlgolist buf algos =
      (bufPutint buf 0 >>= fun zeroed => putAlgoNames algos false zeroed >>= fun named =>
        fillLength buf.pos (sub32 (sub32 named.pos buf.pos) 4) named) := rfl

/-- The length is filled in once the names are written. -/
theorem appends_bufPutAlgolist (algos : List (Algo α)) :
    Appends (bufPutAlgolist · algos) (wireString (joinedNames algos)) := by
  intro buf atEnd room
  rw [wireString, List.length_append, length_be32] at room
  have size := buf.size_le_max
  simp only [bufMaxSize] at size
  obtain ⟨zeroed, wrote, first⟩ := appends_bufPutint 0 buf atEnd (by rw [length_be32]; omega)
  have zeroedLen := first.len
  rw [length_be32] at zeroedLen
  obtain ⟨named, wrote', second⟩ := appends_putAlgoNames algos zeroed first.atEnd
    (by rw [first.size]; omega)
  have namedLen := second.len
  have counted : sub32 (sub32 named.pos buf.pos) 4 = (joinedNames algos).length := by
    have all : sub32 named.len buf.len = 4 + (joinedNames algos).length := by
      rw [sub32_of_le (by omega) (by omega)]
      omega
    rw [second.atEnd, atEnd, all, sub32_of_le (by omega) (by omega)]
    omega
  have contents : named.contents = buf.contents ++ (be32 0 ++ joinedNames algos) :=
    (first.trans second).contents
  obtain ⟨written, filled, contents', atEnd', size'⟩ := exists_fillLength (length_be32 0) contents
  rw [Buffer.length_contents, ← atEnd] at filled
  refine ⟨written, ?_, contents', atEnd', size'.trans (second.size.trans first.size)⟩
  dsimp only at wrote ⊢
  rw [bufPutAlgolist_eq, wrote, Except.ok_bind, wrote', Except.ok_bind, counted, filled]

/-! ## Matching what was received -/

/-- A string that is too long ends the process. -/
theorem bufGetstring_long {buf : Buffer} {str : Bytes} (long : str.length > maxStringLen)
    (fits : str.length < 2 ^ 32) (present : wireString str <+: buf.rest) :
    bufGetstring buf = .error (.exit "String too long") := by
  obtain ⟨here, _⟩ := prefix_rest_of_append present
  have counted := consumes_bufGetint (length_be32 str.length) buf here
  rw [bufGetstring_eq, counted, Except.ok_bind, takeString, ofBe_be32 fits, if_pos long]

theorem bufMatchAlgo_received (role : Role) {own : List (Algo α)} {other : List (Algo β)}
    (kexguess2 : Bool) (ownFormed : WellFormed own) (otherFormed : WellFormed other)
    (short : (joinedNames other).length ≤ maxStringLen) :
    Consumes (bufMatchAlgo role own kexguess2) (wireString (joinedNames other))
      (pickAlgo role own kexguess2 (receivedNames other)) := by
  intro buf present
  rw [bufMatchAlgo, consumes_bufGetstring (isString_wireString short) buf present, Except.ok_bind]
  dsimp only
  rw [getAlgolist_joinedNames otherFormed, Except.ok_bind, if_neg (Nat.not_lt.2 ownFormed.few)]
  rfl

theorem bufMatchAlgo_long (role : Role) {own : List (Algo α)} {other : List (Algo β)}
    (kexguess2 : Bool) (long : (joinedNames other).length > maxStringLen)
    (fits : (joinedNames other).length < 2 ^ 32) {buf : Buffer}
    (present : wireString (joinedNames other) <+: buf.rest) :
    bufMatchAlgo role own kexguess2 buf = .error (.exit "String too long") := by
  rw [bufMatchAlgo, bufGetstring_long long fits present]
  rfl

end Dropbear.Kex
