/-
# An offer that was sent is read as it was meant

The payload of KEXINIT has a closed form.  Reading it gives what one side picks
from the two pairs of tables, without any buffer in between: `chooseAlgos`.
-/

import Dropbear.Kex.Agreement
import Dropbear.Kex.Negotiate

namespace Dropbear.Kex

open Program Signkey

variable {α β : Type}

/-! ## The bytes of an offer -/

/-- The lists of ciphers, MACs and compression methods. -/
def directionBytes (tables : Tables) : Bytes :=
  wireString (joinedNames tables.sshciphers) ++ (wireString (joinedNames tables.sshciphers) ++
    (wireString (joinedNames tables.sshhashes) ++ (wireString (joinedNames tables.sshhashes) ++
      (wireString (joinedNames tables.compressAlgosC2s) ++
        (wireString (joinedNames tables.compressAlgosS2c))))))

/-- What follows the lists: no languages, the flag and the reserved word. -/
def offerEnd (firstFollows : Bool) : Bytes :=
  wireString [] ++ (wireString [] ++ ([if firstFollows then 1 else 0] ++ be32 0))

/-- An offer behind the message type. -/
def offerBody (tables : Tables) (cookie : Bytes) (firstFollows : Bool) : Bytes :=
  cookie ++ (wireString (joinedNames tables.sshkex) ++ (wireString (joinedNames tables.sigalgs) ++
    (directionBytes tables ++ offerEnd firstFollows)))

/-- The payload of KEXINIT. -/
def offer (tables : Tables) (cookie : Bytes) (firstFollows : Bool) : Bytes :=
  msgKexinit.toUInt8 :: offerBody tables cookie firstFollows

/-! ## The choice without buffers -/

/-- Tables that can be offered: lists of proper names, not too long to be read. -/
structure Offerable (tables : Tables) : Prop where
  sshkex : WellFormed tables.sshkex
  sigalgs : WellFormed tables.sigalgs
  sshciphers : WellFormed tables.sshciphers
  sshhashes : WellFormed tables.sshhashes
  compressAlgosC2s : WellFormed tables.compressAlgosC2s
  compressAlgosS2c : WellFormed tables.compressAlgosS2c
  sshkexShort : (joinedNames tables.sshkex).length ≤ maxStringLen
  sigalgsShort : (joinedNames tables.sigalgs).length ≤ maxStringLen
  sshciphersShort : (joinedNames tables.sshciphers).length ≤ maxStringLen
  sshhashesShort : (joinedNames tables.sshhashes).length ≤ maxStringLen
  compressC2sShort : (joinedNames tables.compressAlgosC2s).length ≤ maxStringLen
  compressS2cShort : (joinedNames tables.compressAlgosS2c).length ≤ maxStringLen

/-- Whether a side offers a name in its list of key exchange methods. -/
def offersName (tables : Tables) (name : Bytes) : Bool :=
  decide (name ∈ receivedNames tables.sshkex)

/-- The entry picked from one's own table. -/
def picked (role : Role) (own : List (Algo α)) (other : List (Algo β)) :
    Option (Algo α) :=
  (pickAlgo role own false (receivedNames other)).1

def chooseDirections (role : Role) (own other : Tables) : Except Exit (DirAlgos × DirAlgos) := do
  let c2sCipher ← required "enc c->s" (picked role own.sshciphers other.sshciphers)
  let s2cCipher ← required "enc s->c" (picked role own.sshciphers other.sshciphers)
  let c2sMac ← chooseMac "mac c->s" c2sCipher.data.2 (picked role own.sshhashes other.sshhashes)
  let s2cMac ← chooseMac "mac s->c" s2cCipher.data.2 (picked role own.sshhashes other.sshhashes)
  let c2sComp ← required "comp c->s" (picked role own.compressAlgosC2s other.compressAlgosC2s)
  let s2cComp ← required "comp s->c" (picked role own.compressAlgosS2c other.compressAlgosS2c)
  pure
    ({ algoCrypt := c2sCipher.data.1
       cryptMode := c2sCipher.data.2
       algoMac := c2sMac
       algoComp := c2sComp.data },
     { algoCrypt := s2cCipher.data.1
       cryptMode := s2cCipher.data.2
       algoMac := s2cMac
       algoComp := s2cComp.data })

/-- The flags found in the other side's list. -/
def offeredFlags (role : Role) (donefirstkex : Bool) (other : Tables) : Bool × Bool × Bool :=
  (offersName other kexguess2AlgoName,
    (match role, donefirstkex with
      | .server, false => offersName other sshExtInfoC
      | _, _ => false),
    if donefirstkex then false else offersName other (strictName role))

/-- What one side chooses from its own tables and the other's. -/
def chooseAlgos (role : Role) (own other : Tables)
    (donefirstkex sendKexFirstGuess themFirstfollows : Bool) : Except Exit KexChoice := do
  let (kexguess2, allowExtInfo, strictKex) := offeredFlags role donefirstkex other
  let (kex, goodKex) := pickAlgo role own.sshkex kexguess2 (receivedNames other.sshkex)
  let algoKex ← required "kex" (kex.bind (·.data))
  let (sig, goodSig) := pickAlgo role own.sigalgs kexguess2 (receivedNames other.sigalgs)
  let sig ← required "hostkey" sig
  let (c2s, s2c) ← chooseDirections role own other
  let allgood := goodKex && goodSig
  pure
    { algoKex := algoKex
      algoSignature := sig.data
      recv := match role with
        | .client => s2c
        | .server => c2s
      trans := match role with
        | .client => c2s
        | .server => s2c
      allowExtInfo := allowExtInfo
      strictKex := strictKex
      themFirstfollows := themFirstfollows
      ignorenext := themFirstfollows && !allgood
      ourFirstFollowsMatches := sendKexFirstGuess && allgood }

/-! ## Reading an offer -/

variable {own other : Tables}

theorem yields_readDirections (role : Role) (ownOfferable : Offerable own)
    (otherOfferable : Offerable other) :
    Yields (readDirections role own) (directionBytes other) (chooseDirections role own other) := by
  have cipher := bufMatchAlgo_received role false ownOfferable.sshciphers otherOfferable.sshciphers
    otherOfferable.sshciphersShort
  have hash := bufMatchAlgo_received role false ownOfferable.sshhashes otherOfferable.sshhashes
    otherOfferable.sshhashesShort
  have comp := bufMatchAlgo_received role false ownOfferable.compressAlgosC2s
    otherOfferable.compressAlgosC2s otherOfferable.compressC2sShort
  have comp' := bufMatchAlgo_received role false ownOfferable.compressAlgosS2c
    otherOfferable.compressAlgosS2c otherOfferable.compressS2cShort
  refine Yields.after cipher (Yields.afterCheck fun c2sCipher => ?_)
  refine Yields.after cipher (Yields.afterCheck fun s2cCipher => ?_)
  refine Yields.after hash (Yields.afterCheck fun c2sMac => ?_)
  refine Yields.after hash (Yields.afterCheck fun s2cMac => ?_)
  refine Yields.after comp (Yields.afterCheck fun c2sComp => ?_)
  rw [← List.append_nil (wireString _)]
  refine Yields.after comp' (Yields.afterCheck fun s2cComp => ?_)
  exact Yields.pure _

theorem bufHasAlgo_received {algos : List (Algo α)} (formed : WellFormed algos)
    (short : (joinedNames algos).length ≤ maxStringLen) {buf : Buffer}
    (present : wireString (joinedNames algos) <+: buf.rest) (name : Bytes) :
    bufHasAlgo buf name = .ok (decide (name ∈ receivedNames algos)) := by
  rw [bufHasAlgo, consumes_bufGetstring (isString_wireString short) buf present, Except.ok_bind]
  dsimp only
  rw [getAlgolist_joinedNames formed, Except.ok_bind]
  rfl

theorem readKexFlags_received (role : Role) (donefirstkex : Bool) (offerable : Offerable other)
    {buf : Buffer} (present : wireString (joinedNames other.sshkex) <+: buf.rest) :
    readKexFlags role donefirstkex buf = .ok (offeredFlags role donefirstkex other) := by
  have found := bufHasAlgo_received offerable.sshkex offerable.sshkexShort present
  cases role with
  | client =>
    cases donefirstkex with
    | true => simp only [readKexFlags, found, Except.ok_bind]; rfl
    | false => simp only [readKexFlags, found, Except.ok_bind]; rfl
  | server =>
    cases donefirstkex with
    | true => simp only [readKexFlags, found, Except.ok_bind]; rfl
    | false => simp only [readKexFlags, found, Except.ok_bind]; rfl

theorem firstFollows_byte (firstFollows : Bool) :
    ((if firstFollows then 1 else 0 : UInt8) != 0) = firstFollows := by
  cases firstFollows with
  | true => rfl
  | false => rfl

/-- **An offer is read as it was meant.** -/
theorem yields_readKexAlgos (role : Role) (ownOfferable : Offerable own)
    (otherOfferable : Offerable other) (donefirstkex sendKexFirstGuess firstFollows : Bool)
    {cookie : Bytes} (full : cookie.length = 16) :
    Yields (readKexAlgos role own donefirstkex sendKexFirstGuess)
      (offerBody other cookie firstFollows)
      (chooseAlgos role own other donefirstkex sendKexFirstGuess firstFollows) := by
  have kex := fun kexguess2 => bufMatchAlgo_received role kexguess2 ownOfferable.sshkex
    otherOfferable.sshkex otherOfferable.sshkexShort
  have sig := fun kexguess2 => bufMatchAlgo_received role kexguess2 ownOfferable.sigalgs
    otherOfferable.sigalgs otherOfferable.sigalgsShort
  have directions := yields_readDirections role ownOfferable otherOfferable
  have eaten : ∀ buf : Buffer, wireString [] <+: buf.rest →
      bufEatstring buf = .ok (buf.skip (wireString []).length) := fun buf =>
    bufEatstring_wireString (Nat.zero_le _)
  have follows := consumes_bufGetbool (if firstFollows then 1 else 0)
  rw [firstFollows_byte] at follows
  have cookieRead : ∀ buf : Buffer, cookie <+: buf.rest →
      bufIncrpos buf 16 = .ok (buf.skip cookie.length) := by
    intro buf present
    rw [full]
    exact bufIncrpos_eq_skip (by decide) (full ▸ present.length_le)
  refine Yields.afterSkip cookieRead ?_
  refine Yields.afterPeek (fun _ => readKexFlags_received role donefirstkex otherOfferable) ?_
  refine Yields.after (kex _) (Yields.afterCheck fun algoKex => ?_)
  refine Yields.after (sig _) (Yields.afterCheck fun signature => ?_)
  refine Yields.bind directions fun chosen => ?_
  refine Yields.afterSkip eaten (Yields.afterSkip eaten (Yields.after follows ?_))
  rw [← List.append_nil (be32 0)]
  exact Yields.after (consumes_bufGetint (length_be32 0)) (Yields.pure _)

/-! ## What the two sides make of the guess -/

variable {client : List (Algo α)} {server : List (Algo β)}

theorem pickAlgo_server_name (kexguess2 : Bool) (formed : WellFormed server) :
    (pickAlgo .server server kexguess2 (receivedNames client)).1.map (·.name) =
      agreedName (usableNames client) (usableNames server) := by
  rw [pickAlgo_server kexguess2 formed]
  cases agreed : agreedName (usableNames client) (usableNames server) with
  | none => rfl
  | some name =>
    obtain ⟨algo, found, _, named⟩ := getElem?_idxOf_localNames (agreedName_mem agreed).2
    simp only [found, Option.map_some, named]

theorem pickAlgo_client_name (kexguess2 : Bool) (formed : WellFormed client) :
    (pickAlgo .client client kexguess2 (receivedNames server)).1.map (·.name) =
      agreedName (usableNames client) (usableNames server) := by
  rw [pickAlgo_client kexguess2 formed]
  cases agreed : agreedName (usableNames client) (usableNames server) with
  | none => rfl
  | some name =>
    obtain ⟨algo, found, _, named⟩ := getElem?_idxOf_localNames (agreedName_mem agreed).1
    simp only [found, Option.map_some, named]

/-- Whether one side thinks that the client guessed right. -/
def allgood (role : Role) (own other : Tables) : Bool :=
  let kexguess2 := offersName other kexguess2AlgoName
  (pickAlgo role own.sshkex kexguess2 (receivedNames other.sshkex)).2 &&
    (pickAlgo role own.sigalgs kexguess2 (receivedNames other.sigalgs)).2

theorem chooseAlgos_guess {role : Role} {donefirstkex sendKexFirstGuess firstFollows : Bool}
    {choice : KexChoice}
    (chosen : chooseAlgos role own other donefirstkex sendKexFirstGuess firstFollows = .ok choice) :
    choice.ignorenext = (firstFollows && !allgood role own other) ∧
      choice.ourFirstFollowsMatches = (sendKexFirstGuess && allgood role own other) := by
  obtain ⟨algoKex, _, chosen⟩ := Except.bind_eq_ok.1 chosen
  obtain ⟨signature, _, chosen⟩ := Except.bind_eq_ok.1 chosen
  obtain ⟨directions, _, chosen⟩ := Except.bind_eq_ok.1 chosen
  cases chosen
  exact ⟨rfl, rfl⟩

/-- Both sides find the guess right or both find it wrong. -/
theorem allgood_eq {client server : Tables} (clientOfferable : Offerable client)
    (serverOfferable : Offerable server)
    (same : offersName client kexguess2AlgoName = offersName server kexguess2AlgoName)
    (kex : GuessesAgree (offersName client kexguess2AlgoName) client.sshkex server.sshkex)
    (sig : GuessesAgree (offersName client kexguess2AlgoName) client.sigalgs server.sigalgs) :
    allgood .server server client = allgood .client client server := by
  have kex' := (goodguess_eq_iff _ clientOfferable.sshkex serverOfferable.sshkex).2 kex
  have sig' := (goodguess_eq_iff _ clientOfferable.sigalgs serverOfferable.sigalgs).2 sig
  simp only [allgood]
  rw [kex', sig', same]

/-- Client and server match their tables against the lists in the payloads.  Both
find the agreed name, or nothing if there is none, and judge the guess alike. -/
def MatchesAlike (kexguess2 : Bool) (client : List (Algo α)) (server : List (Algo β))
    (cpayload spayload : Buffer) : Prop :=
  ∃ cret sret good cafter safter,
    bufMatchAlgo .client client kexguess2 cpayload = .ok ((cret, good), cafter) ∧
      bufMatchAlgo .server server kexguess2 spayload = .ok ((sret, good), safter) ∧
        cret.map (·.name) = agreedName (usableNames client) (usableNames server) ∧
          sret.map (·.name) = agreedName (usableNames client) (usableNames server)

theorem matchesAlike_iff {kexguess2 : Bool} (clientFormed : WellFormed client)
    (serverFormed : WellFormed server) (clientFits : (joinedNames client).length < 2 ^ 32)
    (serverFits : (joinedNames server).length < 2 ^ 32) {cpayload spayload : Buffer}
    (received : wireString (joinedNames server) <+: cpayload.rest)
    (received' : wireString (joinedNames client) <+: spayload.rest) :
    MatchesAlike kexguess2 client server cpayload spayload ↔
      ((joinedNames client).length ≤ maxStringLen ∧ (joinedNames server).length ≤ maxStringLen) ∧
        GuessesAgree kexguess2 client server := by
  constructor
  · rintro ⟨cret, sret, good, cafter, safter, cmatched, smatched, -, -⟩
    have serverShort : (joinedNames server).length ≤ maxStringLen := by
      by_contra long
      rw [bufMatchAlgo_long _ _ (Nat.lt_of_not_le long) serverFits received] at cmatched
      cases cmatched
    have clientShort : (joinedNames client).length ≤ maxStringLen := by
      by_contra long
      rw [bufMatchAlgo_long _ _ (Nat.lt_of_not_le long) clientFits received'] at smatched
      cases smatched
    refine ⟨⟨clientShort, serverShort⟩, ?_⟩
    rw [bufMatchAlgo_received _ _ clientFormed serverFormed serverShort _ received] at cmatched
    rw [bufMatchAlgo_received _ _ serverFormed clientFormed clientShort _ received'] at smatched
    have flag := congrArg Prod.snd (Prod.mk.inj (Except.ok.inj cmatched)).1
    have flag' := congrArg Prod.snd (Prod.mk.inj (Except.ok.inj smatched)).1
    exact (goodguess_eq_iff kexguess2 clientFormed serverFormed).1 (flag'.trans flag.symm)
  · rintro ⟨⟨clientShort, serverShort⟩, agree⟩
    have flags := (goodguess_eq_iff kexguess2 clientFormed serverFormed).2 agree
    have smatched := bufMatchAlgo_received .server kexguess2 serverFormed clientFormed clientShort
      _ received'
    refine ⟨(pickAlgo .client client kexguess2 (receivedNames server)).1,
      (pickAlgo .server server kexguess2 (receivedNames client)).1,
      (pickAlgo .server server kexguess2 (receivedNames client)).2,
      cpayload.skip (wireString (joinedNames server)).length, _, ?_, smatched,
      pickAlgo_client_name kexguess2 clientFormed, pickAlgo_server_name kexguess2 serverFormed⟩
    rw [flags]
    exact bufMatchAlgo_received .client kexguess2 clientFormed serverFormed serverShort _ received

/-- **The two sides agree exactly if both lists can be read and the holes in the
tables do not come before the guess.**  Each side writes its list at the end of a
buffer, and finds the other's at the position of its payload.  If the lists of key
exchange methods and of signatures are such, the client's guess is kept by the
client exactly if it is not ignored by the server. -/
theorem algorithms_agree_iff (kexguess2 : Bool) (client : List (Algo α)) (server : List (Algo β))
    (clientFormed : WellFormed client) (serverFormed : WellFormed server) (cbuf sbuf : Buffer)
    (cend : cbuf.pos = cbuf.len) (send : sbuf.pos = sbuf.len)
    (croom : cbuf.len + (wireString (joinedNames client)).length ≤ cbuf.data.length)
    (sroom : sbuf.len + (wireString (joinedNames server)).length ≤ sbuf.data.length) :
    (∃ cwritten swritten,
      bufPutAlgolist cbuf client = .ok cwritten ∧ bufPutAlgolist sbuf server = .ok swritten ∧
        ∀ cpayload spayload : Buffer, swritten.contents.drop sbuf.len <+: cpayload.rest →
          cwritten.contents.drop cbuf.len <+: spayload.rest →
            (MatchesAlike kexguess2 client server cpayload spayload ↔
              ((joinedNames client).length ≤ maxStringLen ∧
                  (joinedNames server).length ≤ maxStringLen) ∧
                GuessesAgree kexguess2 client server)) ∧
      ∀ ctables stables : Tables, Offerable ctables → Offerable stables →
        offersName ctables kexguess2AlgoName = offersName stables kexguess2AlgoName →
        GuessesAgree (offersName ctables kexguess2AlgoName) ctables.sshkex stables.sshkex →
        GuessesAgree (offersName ctables kexguess2AlgoName) ctables.sigalgs stables.sigalgs →
        ∀ (donefirstkex sguess : Bool) (ccookie scookie : Bytes) (cpayload spayload : Buffer)
          (cchoice schoice : KexChoice × Buffer), ccookie.length = 16 → scookie.length = 16 →
          offerBody stables scookie sguess <+: cpayload.rest →
          offerBody ctables ccookie true <+: spayload.rest →
          readKexAlgos .client ctables donefirstkex true cpayload = .ok cchoice →
          readKexAlgos .server stables donefirstkex sguess spayload = .ok schoice →
          cchoice.1.ourFirstFollowsMatches = !schoice.1.ignorenext := by
  constructor
  · obtain ⟨cwritten, cput, cappended⟩ := appends_bufPutAlgolist client cbuf cend croom
    obtain ⟨swritten, sput, sappended⟩ := appends_bufPutAlgolist server sbuf send sroom
    refine ⟨cwritten, swritten, cput, sput, ?_⟩
    intro cpayload spayload received received'
    rw [sappended.contents, ← Buffer.length_contents, List.drop_left] at received
    rw [cappended.contents, ← Buffer.length_contents, List.drop_left] at received'
    have fits : ∀ (names : Bytes) (buf : Buffer),
        buf.len + (wireString names).length ≤ buf.data.length → names.length < 2 ^ 32 := by
      intro names buf room
      have size := buf.size_le_max
      rw [wireString, List.length_append] at room
      simp only [bufMaxSize] at size
      omega
    exact matchesAlike_iff clientFormed serverFormed (fits _ _ croom) (fits _ _ sroom) received
      received'
  · intro ctables stables cofferable sofferable same kex sig donefirstkex sguess ccookie scookie
      cpayload spayload cchoice schoice cfull sfull received received' cread sread
    rw [yields_readKexAlgos .client cofferable sofferable donefirstkex true sguess sfull cpayload
      received] at cread
    rw [yields_readKexAlgos .server sofferable cofferable donefirstkex sguess true cfull spayload
      received'] at sread
    obtain ⟨choice, chosen, rfl⟩ := Except.map_eq_ok.1 cread
    obtain ⟨choice', chosen', rfl⟩ := Except.map_eq_ok.1 sread
    rw [(chooseAlgos_guess chosen).2, (chooseAlgos_guess chosen').1,
      allgood_eq cofferable sofferable same kex sig]
    simp

/-! ## A method that is switched off

If the client has its first method switched off, its guess is the second one.  The
server finds it in the first place of the client's list, and the client in the
second place of its table. -/

def twoMethods (enabled : Bool) : List (Algo (Option DropbearKex)) :=
  [ { name := ascii "curve25519-sha256"
      data := some { mode := .curve25519, details := 0, hashDesc := 0 }
      usable := enabled },
    { name := ascii "ecdh-sha2-nistp256"
      data := some { mode := .ecdh, details := 0, hashDesc := 0 }
      usable := true },
    { name := kexguess2AlgoName
      data := none
      usable := true } ]

def twoMethodTables (enabled : Bool) : Tables where
  sshkex := twoMethods enabled
  sigalgs := [{ name := ascii "ssh-ed25519", data := .ofSignkey .ed25519, usable := true }]
  sshciphers :=
    [ { name := ascii "aes256-ctr"
        data := ({ cipherdesc := some 0, keysize := 32, blocksize := 16 }, .ctr)
        usable := true } ]
  sshhashes :=
    [ { name := ascii "hmac-sha2-256"
        data := { hashDesc := some 0, keysize := 32, hashsize := 32 }
        usable := true } ]
  compressAlgosC2s := [{ name := ascii "none", data := .none, usable := true }]
  compressAlgosS2c := [{ name := ascii "none", data := .none, usable := true }]

theorem wellFormed_of_decide {algos : List (Algo α)}
    (formed : algos.length ≤ maxProposedAlgo ∧
      (∀ name ∈ algos.map (·.name), name ≠ [] ∧ comma ∉ name ∧ 0 ∉ name) ∧
        (algos.map (·.name)).Nodup) : WellFormed algos where
  few := formed.1
  names algo there := by
    obtain ⟨nonempty, no_comma, no_null⟩ := formed.2.1 _ (List.mem_map_of_mem there)
    exact ⟨nonempty, no_comma, no_null⟩
  distinct := formed.2.2

theorem twoMethodTables_offerable (enabled : Bool) :
    Offerable (twoMethodTables enabled) where
  sshkex := wellFormed_of_decide (by cases enabled <;> decide +kernel)
  sigalgs := wellFormed_of_decide (by cases enabled <;> decide +kernel)
  sshciphers := wellFormed_of_decide (by cases enabled <;> decide +kernel)
  sshhashes := wellFormed_of_decide (by cases enabled <;> decide +kernel)
  compressAlgosC2s := wellFormed_of_decide (by cases enabled <;> decide +kernel)
  compressAlgosS2c := wellFormed_of_decide (by cases enabled <;> decide +kernel)
  sshkexShort := by cases enabled <;> decide +kernel
  sigalgsShort := by cases enabled <;> decide +kernel
  sshciphersShort := by cases enabled <;> decide +kernel
  sshhashesShort := by cases enabled <;> decide +kernel
  compressC2sShort := by cases enabled <;> decide +kernel
  compressS2cShort := by cases enabled <;> decide +kernel

def emptyBuffer : Buffer := .ofSize 200 (by decide)

/-- With every method switched on the two sides agree. -/
theorem algorithms_agree_switchedOn :
    Offerable (twoMethodTables true) ∧
      (∃ cwritten swritten,
        bufPutAlgolist emptyBuffer (twoMethods true) = .ok cwritten ∧
          bufPutAlgolist emptyBuffer (twoMethods true) = .ok swritten ∧
            ∀ cpayload spayload : Buffer, swritten.contents.drop 0 <+: cpayload.rest →
              cwritten.contents.drop 0 <+: spayload.rest →
                MatchesAlike true (twoMethods true) (twoMethods true) cpayload spayload) := by
  have offerable := twoMethodTables_offerable true
  refine ⟨offerable, ?_⟩
  obtain ⟨⟨cwritten, swritten, cput, sput, alike⟩, -⟩ :=
    algorithms_agree_iff true (twoMethods true) (twoMethods true) offerable.sshkex
      offerable.sshkex emptyBuffer emptyBuffer rfl rfl (by decide +kernel) (by decide +kernel)
  refine ⟨cwritten, swritten, cput, sput, ?_⟩
  intro cpayload spayload received received'
  exact (alike cpayload spayload received received').2
    ⟨⟨offerable.sshkexShort, offerable.sshkexShort⟩, fun _ _ _ => rfl⟩

/-- Match a table against the list that the other side writes. -/
def matchWritten (role : Role) (own : List (Algo α)) (other : List (Algo β)) (kexguess2 : Bool) :
    Except Exit (Option Bytes × Bool) := do
  let buf ← bufNew 200
  let buf ← bufPutAlgolist buf other
  let buf ← bufSetpos buf 0
  let ((ret, goodguess), _) ← bufMatchAlgo role own kexguess2 buf
  pure (ret.map (·.name), goodguess)

/-- Choose by the offer that the other side writes. -/
def chooseWritten (role : Role) (own other : Tables) (sendKexFirstGuess firstFollows : Bool) :
    Except Exit KexChoice := do
  let buf ← bufNew 400
  let buf ← putKexinit other (List.replicate 16 0) firstFollows buf
  let buf ← bufSetpos buf 1
  let (choice, _) ← readKexAlgos role own false sendKexFirstGuess buf
  pure choice

/-- The server takes the guess, and the client does not stand by it. -/
theorem algorithms_differ_switchedOff :
    WellFormed (twoMethods false) ∧ WellFormed (twoMethods true) ∧
      matchWritten .client (twoMethods false) (twoMethods true) true =
        .ok (some (ascii "ecdh-sha2-nistp256"), false) ∧
      matchWritten .server (twoMethods true) (twoMethods false) true =
        .ok (some (ascii "ecdh-sha2-nistp256"), true) ∧
      (chooseWritten .client (twoMethodTables false) (twoMethodTables true) true false).map
        (·.ourFirstFollowsMatches) = .ok false ∧
      (chooseWritten .server (twoMethodTables true) (twoMethodTables false) false true).map
        (·.ignorenext) = .ok false := by
  refine ⟨(twoMethodTables_offerable false).sshkex, (twoMethodTables_offerable true).sshkex, ?_⟩
  decide +kernel

end Dropbear.Kex
