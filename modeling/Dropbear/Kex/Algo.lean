/-
# Algorithm tables and their lists on the wire

`common-algo.c`: a side sends the names of the usable entries of a table as one
string with commas, and picks an algorithm by comparing the other side's list
with its own table.  In the local list an unusable entry keeps its place as a
null pointer, while the list that was received has no such holes.
-/

import Dropbear.Buffer.Append

namespace Dropbear.Kex

open Program

/-- `IS_DROPBEAR_CLIENT` and `IS_DROPBEAR_SERVER`. -/
inductive Role where
  | client
  | server
  deriving DecidableEq, Repr

/-- `MAX_PROPOSED_ALGO`: room for the names of a list. -/
def maxProposedAlgo : Nat := 50

/-- `algo_type`: an entry of a table, with whatever the table stores for it. -/
structure Algo (α : Type) where
  name : Bytes
  data : α
  usable : Bool
  deriving DecidableEq, Repr

/-- The byte `','`. -/
def comma : UInt8 := 44

variable {α : Type}

/-! ## Writing -/

/-- The loop of `buf_put_algolist_all`. -/
def putAlgoNames : List (Algo α) → Bool → Buffer → Except Exit Buffer
  | [], _, buf => pure buf
  | algo :: rest, donefirst, buf =>
    if algo.usable then do
      let buf ← if donefirst then bufPutbyte buf comma else pure buf
      let buf ← bufPutbytes buf algo.name
      putAlgoNames rest true buf
    else putAlgoNames rest donefirst buf

/-- Write the usable names, with a length that is filled in afterwards. -/
def bufPutAlgolist (buf : Buffer) (localalgos : List (Algo α)) : Except Exit Buffer := do
  let startpos := buf.pos
  let buf ← bufPutint buf 0
  let buf ← putAlgoNames localalgos false buf
  let len := sub32 (sub32 buf.pos startpos) 4
  fillLength startpos len buf

/-! ## Reading -/

/-- The loop of `get_algolist`: the names found so far, the beginning of the
current one, and the characters still to come.  A zero byte empties the list. -/
def algolistLoop (found : List Bytes) (current : Bytes) : Bytes → Except Exit (List Bytes)
  | [] => .ok (found ++ [current])
  | char :: rest =>
    if char = 0 then .ok []
    else if char = comma then
      if found.length + 1 ≥ maxProposedAlgo then .error (.exit "Too many remote algorithms")
      else algolistLoop (found ++ [current]) [] rest
    else algolistLoop found (current ++ [char]) rest

/-- The names in a list.  The limit on its length has no effect in the source: the
count it sets is overwritten. -/
def getAlgolist (algolist : Bytes) : Except Exit (List Bytes) := algolistLoop [] [] algolist

/-- Whether a name is in the list at the position, which stays where it is. -/
def bufHasAlgo (buf : Buffer) (algo : Bytes) : Except Exit Bool := do
  let (algolist, _) ← bufGetstring buf
  let remotenames ← getAlgolist algolist
  pure (decide (algo ∈ remotenames))

def firstUsableAlgo (algos : List (Algo α)) : Option (Algo α) := algos.find? (·.usable)

/-- The local list of names, with null pointers for unusable entries. -/
def localNames (localalgos : List (Algo α)) : List (Option Bytes) :=
  localalgos.map fun algo => if algo.usable then some algo.name else none

/-- The inner loop of `buf_match_algo`: the place of a client's name among the
server's names. -/
def matchServer (cliname : Option Bytes) : List (Option Bytes) → Nat → Option Nat
  | [], _ => none
  | servname :: rest, j =>
    match servname, cliname with
    | some serv, some cli => if serv = cli then some j else matchServer cliname rest (j + 1)
    | _, _ => matchServer cliname rest (j + 1)

/-- The outer loop: the places of the first match in the two lists. -/
def matchClient (servnames : List (Option Bytes)) : List (Option Bytes) → Nat → Option (Nat × Nat)
  | [], _ => none
  | cliname :: rest, i =>
    match matchServer cliname servnames 0 with
    | some j => some (i, j)
    | none => matchClient servnames rest (i + 1)

/-- Whether a match at these places means that the peer guessed right. -/
def isGoodguess (kexguess2 : Bool) (i j : Nat) : Bool := if kexguess2 then i = 0 else i = 0 && j = 0

/-- The two loops from the view of one side: the entry of its table, and whether it
was a good guess. -/
def pickAlgo (role : Role) (localalgos : List (Algo α)) (kexguess2 : Bool)
    (remotenames : List Bytes) : Option (Algo α) × Bool :=
  match role with
  | .server =>
    match matchClient (localNames localalgos) (remotenames.map some) 0 with
    | none => (none, false)
    | some (i, j) => (localalgos[j]?, isGoodguess kexguess2 i j)
  | .client =>
    match matchClient (remotenames.map some) (localNames localalgos) 0 with
    | none => (none, false)
    | some (i, j) => (localalgos[i]?, isGoodguess kexguess2 i j)

/-- The first algorithm of the client's list that the server has too, as the entry
of the local table, and whether it was a good guess.  The local names are copied
to an array with room for `MAX_PROPOSED_ALGO` of them. -/
def bufMatchAlgo (role : Role) (localalgos : List (Algo α)) (kexguess2 : Bool) (buf : Buffer) :
    Except Exit ((Option (Algo α) × Bool) × Buffer) := do
  let (algolist, buf) ← bufGetstring buf
  let remotenames ← getAlgolist algolist
  if localalgos.length > maxProposedAlgo then throw .overrun
  else pure (pickAlgo role localalgos kexguess2 remotenames, buf)

end Dropbear.Kex
