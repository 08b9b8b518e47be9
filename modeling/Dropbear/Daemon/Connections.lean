/-
# Connections before authentication

The loop of `main_noinetd` accepts connections and starts a process for each.  As long as a
client has not authenticated, its process holds the write end of a pipe, whose read end is kept
in a slot with the client's address, and the slots limit how many such processes there are.
When the read end shows that the write end is closed, the slot is free again.

A connection that is not served goes to the end of the loop body, where only its socket is
closed.  If `fork` failed, then both ends of the pipe stay open.
-/

import Dropbear.Buffer.Basic
import Dropbear.Program.Spec

namespace Dropbear.Daemon

open Program

/-- `MAX_UNAUTH_CLIENTS` and `MAX_UNAUTH_PER_IP`. -/
structure Limits where
  clients : Nat
  perIp : Nat

/-- An entry of `childpipes` and of `preauth_addrs`. -/
structure Slot where
  /-- `none` is `-1`. -/
  childpipe : Option Nat
  preauthAddr : Option Bytes
  deriving DecidableEq, Repr

/-- A session that was started and whose pipe event has not been seen. -/
structure Session where
  /-- The read end of its pipe, in the listening process. -/
  pipe : Nat
  addr : Bytes
  /-- It has neither authenticated nor exited. -/
  preauth : Bool
  deriving DecidableEq, Repr

structure Serving where
  slots : List Slot
  /-- The descriptors that are open beyond those before the loop. -/
  opened : List Nat
  sessions : List Session
  /-- How often `fork` has failed, of which the program keeps no record. -/
  failedForks : Nat
  deriving DecidableEq, Repr

def Serving.start (limits : Limits) : Serving :=
  ⟨List.replicate limits.clients ⟨none, none⟩, [], [], 0⟩

/-- How the system calls for a connection go, as far as they are made: `accept`, `pipe` and
`fork`.  The system does not hand out a descriptor that is open. -/
structure Attempt where
  accepted : Option (Nat × Bytes)
  pipe : Option (Nat × Nat)
  forked : Bool
  deriving DecidableEq, Repr

def Serving.close (serving : Serving) (fd : Nat) : Serving :=
  { serving with opened := serving.opened.filter (· ≠ fd) }

/-- What the loop over the slots finds. -/
structure Unauthed where
  total : Nat
  forAddr : Nat
  connIdx : Nat

def countUnauthed (remoteHost : Bytes) : List Slot → Nat → Unauthed → Except Exit Unauthed
  | [], _, found => pure found
  | slot :: rest, j, found =>
    match slot.childpipe, slot.preauthAddr with
    | none, _ => countUnauthed remoteHost rest (j + 1) { found with connIdx := j }
    | some _, none => throw .nullDeref
    | some _, some addr =>
      countUnauthed remoteHost rest (j + 1)
        { found with
          total := found.total + 1
          forAddr := if remoteHost = addr then found.forAddr + 1 else found.forAddr }

/-- Start a process for a connection. -/
def startSession (attempt : Attempt) (remoteHost : Bytes) (connIdx : Nat)
    (serving : Serving) : Serving :=
  match attempt.pipe.filter fun pipe =>
    pipe.1 ≠ pipe.2 ∧ pipe.1 ∉ serving.opened ∧ pipe.2 ∉ serving.opened with
  | none => serving
  | some (readEnd, writeEnd) =>
    let serving := { serving with opened := readEnd :: writeEnd :: serving.opened }
    if attempt.forked then
      { serving.close writeEnd with
        slots := serving.slots.set connIdx ⟨some readEnd, some remoteHost⟩
        sessions := ⟨readEnd, remoteHost, true⟩ :: serving.sessions }
    else { serving with failedForks := serving.failedForks + 1 }

/-- Handle a socket which has something to say. -/
def handleSocket (limits : Limits) (serving : Serving) (attempt : Attempt) :
    Except Exit Serving :=
  match attempt.accepted.filter (·.1 ∉ serving.opened) with
  | none => pure serving
  | some (childsock, remoteHost) => do
    let serving := { serving with opened := childsock :: serving.opened }
    let found ← countUnauthed remoteHost serving.slots 0 ⟨0, 0, 0⟩
    let serving :=
      if found.total ≥ limits.clients ∨ found.forAddr ≥ limits.perIp then serving
      else startSession attempt remoteHost found.connIdx serving
    pure (serving.close childsock)

/-- A pipe is only ready if its session has authenticated or exited. -/
def Serving.seen (serving : Serving) (ready : List Nat) (fd : Nat) : Bool :=
  fd ∈ ready && serving.sessions.any fun session => session.pipe = fd && !session.preauth

/-- Close descriptors which have been authed or closed. -/
def closeSeen (ready : List Nat) (serving : Serving) : Serving where
  slots := serving.slots.map fun slot =>
    if slot.childpipe.any (serving.seen ready) then ⟨none, none⟩ else slot
  opened := serving.opened.filter fun fd => !serving.seen ready fd
  sessions := serving.sessions.filter fun session => !serving.seen ready session.pipe
  failedForks := serving.failedForks

inductive Event where
  /-- A child authenticates, which closes its end of the pipe, or it exits. -/
  | sessionEnds (pipe : Nat)
  /-- `select` returns the pipes that are ready, and the listening sockets, of which the
  attempts are made. -/
  | selected (ready : List Nat) (attempts : List Attempt)
  /-- `select` is interrupted, without a signal that ends the process. -/
  | interrupted
  | terminated
  | selectFails

def round (limits : Limits) (serving : Serving) : Event → Except Exit Serving
  | .sessionEnds pipe => pure
      { serving with
        sessions := serving.sessions.map fun session =>
          if session.pipe = pipe then { session with preauth := false } else session }
  | .selected ready attempts => attempts.foldlM (handleSocket limits) (closeSeen ready serving)
  | .interrupted => pure serving
  | .terminated => throw (.close "Terminated by signal")
  | .selectFails => throw (.exit "Listening socket error")

/-- One round of the loop.  A process that ends stays as it was at the top of the loop. -/
def step (limits : Limits) (event : Event) : EStateM Exit Serving Unit := fun serving =>
  match round limits serving event with
  | .ok after => .ok () after
  | .error failure => .error failure serving

/-! ## The slots -/

def Slot.occupied (slot : Slot) : Bool := slot.childpipe.isSome

/-- The slot of a session. -/
def Session.slot (session : Session) : Slot := ⟨some session.pipe, some session.addr⟩

/-- The occupied slots are those of the sessions, each with its own pipe, and the sessions
keep the limits. -/
structure Serving.Kept (limits : Limits) (serving : Serving) : Prop where
  size : serving.slots.length = limits.clients
  slots : (serving.sessions.map Session.slot).Perm (serving.slots.filter Slot.occupied)
  distinct : (serving.sessions.map Session.pipe).Nodup
  held : ∀ session ∈ serving.sessions, session.pipe ∈ serving.opened
  perIp : ∀ addr, serving.sessions.countP (·.addr = addr) ≤ limits.perIp

variable {limits : Limits} {serving : Serving}

variable {slot : Slot}

theorem Serving.Kept.mem_iff (kept : serving.Kept limits) :
    (slot ∈ serving.slots ∧ slot.occupied) ↔ ∃ session ∈ serving.sessions, session.slot = slot := by
  rw [← List.mem_filter, ← kept.slots.mem_iff, List.mem_map]

theorem countUnauthed_eq (remoteHost : Bytes) {slots : List Slot}
    (addressed : ∀ slot ∈ slots, slot.occupied → slot.preauthAddr ≠ none) (j : Nat)
    (found : Unauthed) :
    ∃ result, countUnauthed remoteHost slots j found = .ok result ∧
      result.total = found.total + (slots.filter Slot.occupied).length ∧
      result.forAddr = found.forAddr +
        (slots.filter Slot.occupied).countP (·.preauthAddr = some remoteHost) ∧
      ((slots.filter Slot.occupied).length = slots.length ∧ result.connIdx = found.connIdx ∨
        j ≤ result.connIdx ∧ ∃ slot, slots[result.connIdx - j]? = some slot ∧
          slot.occupied = false) := by
  induction slots generalizing j found with
  | nil => exact ⟨found, rfl, rfl, rfl, .inl ⟨rfl, rfl⟩⟩
  | cons slot rest ih =>
    obtain ⟨childpipe, preauthAddr⟩ := slot
    have behind : ∀ connIdx, j + 1 ≤ connIdx →
        (⟨childpipe, preauthAddr⟩ :: rest)[connIdx - j]? = rest[connIdx - (j + 1)]? := by
      intro connIdx after
      rw [show connIdx - j = connIdx - (j + 1) + 1 by omega, List.getElem?_cons_succ]
    specialize ih fun slot mem => addressed slot (.tail _ mem)
    cases childpipe with
    | none =>
      obtain ⟨result, counted, total, forAddr, idx⟩ := ih (j + 1) { found with connIdx := j }
      refine ⟨result, counted, total, forAddr, .inr ?_⟩
      rcases idx with ⟨_, same⟩ | ⟨after, slot, there, free⟩
      · rw [same]
        exact ⟨Nat.le_refl j, ⟨none, preauthAddr⟩, by simp, rfl⟩
      · exact ⟨by omega, slot, (behind _ after).trans there, free⟩
    | some fd =>
      cases preauthAddr with
      | none => exact absurd rfl (addressed _ List.mem_cons_self rfl)
      | some addr =>
        obtain ⟨result, counted, total, forAddr, idx⟩ := ih (j + 1)
          { found with
            total := found.total + 1
            forAddr := if remoteHost = addr then found.forAddr + 1 else found.forAddr }
        have occupied : Slot.occupied ⟨some fd, some addr⟩ := rfl
        rw [List.filter_cons_of_pos occupied, List.length_cons, List.length_cons, List.countP_cons]
        refine ⟨result, counted, by dsimp only at total; omega, ?_, ?_⟩
        · rw [forAddr]
          by_cases same : remoteHost = addr
          · simp [same]
            omega
          · simp [same, Ne.symm same]
        · rcases idx with ⟨all, same⟩ | ⟨after, slot, there, free⟩
          · exact .inl ⟨by omega, same⟩
          · exact .inr ⟨by omega, slot, (behind _ after).trans there, free⟩

/-- What becomes of a connection. -/
inductive Handled (limits : Limits) (serving : Serving) : Serving → Prop where
  | refused {opened : List Nat} (same : ∀ fd, fd ∈ opened ↔ fd ∈ serving.opened) :
      Handled limits serving { serving with opened := opened }
  /-- `fork` failed. -/
  | leaked {opened : List Nat} {pipe : Nat} (more : ∀ fd ∈ serving.opened, fd ∈ opened)
      (fresh : pipe ∉ serving.opened) (left : pipe ∈ opened) :
      Handled limits serving
        { serving with
          opened := opened
          failedForks := serving.failedForks + 1 }
  | started {opened : List Nat} {pipe place : Nat} {addr : Bytes} {slot : Slot}
      (found : serving.slots[place]? = some slot) (free : slot.occupied = false)
      (fewer : serving.sessions.countP (·.addr = addr) < limits.perIp)
      (fresh : pipe ∉ serving.opened)
      (same : ∀ fd, fd ∈ opened ↔ fd = pipe ∨ fd ∈ serving.opened) :
      Handled limits serving
        ⟨serving.slots.set place ⟨some pipe, some addr⟩, opened,
          ⟨pipe, addr, true⟩ :: serving.sessions, serving.failedForks⟩

theorem exists_handleSocket (kept : serving.Kept limits) (attempt : Attempt) :
    ∃ after, handleSocket limits serving attempt = .ok after ∧ Handled limits serving after := by
  rw [handleSocket]
  cases accepted : attempt.accepted.filter (·.1 ∉ serving.opened) with
  | none => exact ⟨serving, rfl, .refused fun _ => Iff.rfl⟩
  | some connection =>
    obtain ⟨childsock, remoteHost⟩ := connection
    have new : childsock ∉ serving.opened :=
      of_decide_eq_true (Option.filter_eq_some_iff.1 accepted).2
    have closed : ∀ fd, (fd ∈ (childsock :: serving.opened).filter (· ≠ childsock)) ↔
        fd ∈ serving.opened := by
      intro fd
      rw [List.mem_filter, List.mem_cons, decide_eq_true_eq]
      exact ⟨fun both => both.1.resolve_left both.2, fun mem => ⟨.inr mem, fun same =>
        new (same ▸ mem)⟩⟩
    have addressed : ∀ slot ∈ serving.slots, slot.occupied → slot.preauthAddr ≠ none := by
      intro slot mem occupied
      obtain ⟨session, _, rfl⟩ := kept.mem_iff.1 ⟨mem, occupied⟩
      exact nofun
    obtain ⟨found, counted, total, forAddr, idx⟩ :=
      countUnauthed_eq remoteHost addressed 0 ⟨0, 0, 0⟩
    simp only [counted, Except.ok_bind]
    split
    · exact ⟨_, rfl, .refused closed⟩
    case _ within =>
      rw [not_or, Nat.not_le, Nat.not_le] at within
      rw [startSession]
      cases piped : attempt.pipe.filter fun pipe => pipe.1 ≠ pipe.2 ∧
          pipe.1 ∉ childsock :: serving.opened ∧ pipe.2 ∉ childsock :: serving.opened with
      | none => exact ⟨_, rfl, .refused closed⟩
      | some pipe =>
        obtain ⟨readEnd, writeEnd⟩ := pipe
        obtain ⟨apart, newRead, newWrite⟩ := of_decide_eq_true (Option.filter_eq_some_iff.1 piped).2
        dsimp only at apart newRead newWrite ⊢
        rw [List.mem_cons, not_or] at newRead newWrite
        cases attempt.forked with
        | false =>
          refine ⟨_, rfl, .leaked (fun fd mem => ?_) newRead.2 ?_⟩
          · exact List.mem_filter.2 ⟨.tail _ (.tail _ (.tail _ mem)),
              decide_eq_true fun same => new (same ▸ mem)⟩
          · exact List.mem_filter.2 ⟨List.mem_cons_self, decide_eq_true newRead.1⟩
        | true =>
          obtain ⟨full, _⟩ | ⟨_, slot, there, free⟩ := idx
          · rw [kept.size] at full
            dsimp only at total
            omega
          have fewer : serving.sessions.countP (·.addr = remoteHost) < limits.perIp := by
            rw [← kept.slots.countP_eq, List.countP_map] at forAddr
            refine Nat.lt_of_le_of_lt (Nat.le_of_eq ?_) within.2
            rw [forAddr, Nat.zero_add]
            simp [Session.slot, Function.comp_def]
          refine ⟨_, rfl, .started there free fewer newRead.2 fun fd => ?_⟩
          simp only [Serving.close, List.mem_filter, decide_eq_true_eq]
          grind

variable {place : Nat}

/-- A free slot is filled. -/
theorem perm_filter_set {slots : List Slot} {slot' : Slot} (found : slots[place]? = some slot)
    (free : slot.occupied = false) (occupied : slot'.occupied = true) :
    (slot' :: slots.filter Slot.occupied).Perm ((slots.set place slot').filter Slot.occupied) := by
  induction slots generalizing place with
  | nil => cases found
  | cons first rest ih =>
    cases place with
    | zero =>
      cases found
      rw [List.set_cons_zero, List.filter_cons_of_neg (by simp [free]),
        List.filter_cons_of_pos occupied]
    | succ place =>
      rw [List.set_cons_succ]
      cases isOccupied : first.occupied with
      | false =>
        rw [List.filter_cons_of_neg (by simp [isOccupied]),
          List.filter_cons_of_neg (by simp [isOccupied])]
        exact ih found
      | true =>
        rw [List.filter_cons_of_pos isOccupied, List.filter_cons_of_pos isOccupied]
        exact (List.Perm.swap _ _ _).trans ((ih found).cons _)

variable {after : Serving}

theorem Handled.kept (kept : serving.Kept limits) (handled : Handled limits serving after) :
    after.Kept limits := by
  cases handled with
  | refused same => exact { kept with held := fun session mem => (same _).2 (kept.held session mem) }
  | leaked more => exact { kept with held := fun session mem => more _ (kept.held session mem) }
  | started found free fewer fresh same =>
    constructor
    · rw [List.length_set]
      exact kept.size
    · exact (kept.slots.cons _).trans (perm_filter_set found free rfl)
    · refine List.nodup_cons.2 ⟨fun listed => ?_, kept.distinct⟩
      obtain ⟨session, mem, rfl⟩ := List.mem_map.1 listed
      exact fresh (kept.held session mem)
    · intro session mem
      rcases List.mem_cons.1 mem with rfl | mem
      · exact (same _).2 (.inl rfl)
      · exact (same _).2 (.inr (kept.held session mem))
    · intro other
      rw [List.countP_cons]
      split
      case _ isAddr =>
        cases of_decide_eq_true isAddr
        exact fewer
      case _ => exact kept.perIp other

/-- Slots in use are not overwritten. -/
theorem Handled.slotStays (handled : Handled limits serving after)
    (there : serving.slots[place]? = some slot) (occupied : slot.occupied = true) :
    after.slots[place]? = some slot := by
  cases handled with
  | refused => exact there
  | leaked => exact there
  | started found free =>
    rw [List.getElem?_set_ne]
    · exact there
    · rintro rfl
      cases found.symm.trans there
      rw [free] at occupied
      cases occupied

/-! ## Pipe events -/

theorem filter_closed (slots : List Slot) (seen : Nat → Bool) :
    (slots.map fun slot => if slot.childpipe.any seen then ⟨none, none⟩ else slot).filter
        Slot.occupied =
      (slots.filter Slot.occupied).filter fun slot => !slot.childpipe.any seen := by
  induction slots with
  | nil => rfl
  | cons slot rest ih =>
    obtain ⟨_ | fd, addr⟩ := slot
    · exact ih
    · rw [List.map_cons, List.filter_cons_of_pos (a := (⟨some fd, addr⟩ : Slot)) rfl]
      cases isSeen : seen fd with
      | false =>
        rw [if_neg (by simp [isSeen]), List.filter_cons_of_pos rfl, ih,
          List.filter_cons_of_pos (by simp [isSeen])]
      | true =>
        rw [if_pos (by exact isSeen), List.filter_cons_of_neg (by exact Bool.false_ne_true), ih,
          List.filter_cons_of_neg (by simp [isSeen])]

theorem Serving.Kept.closeSeen (kept : serving.Kept limits) (ready : List Nat) :
    (closeSeen ready serving).Kept limits where
  size := (List.length_map _).trans kept.size
  slots := by
    have kept := kept.slots.filter fun slot => !slot.childpipe.any (serving.seen ready)
    rw [← filter_closed, List.filter_map] at kept
    exact kept
  distinct := kept.distinct.sublist ((List.filter_sublist).map _)
  held := by
    intro session mem
    obtain ⟨mem, unseen⟩ := List.mem_filter.1 mem
    exact List.mem_filter.2 ⟨kept.held session mem, unseen⟩
  perIp addr := Nat.le_trans (List.Sublist.countP_le List.filter_sublist) (kept.perIp addr)

/-- A slot is freed if its session has ended. -/
theorem Serving.Kept.seen (kept : serving.Kept limits) (ready : List Nat)
    (there : serving.slots[place]? = some slot) (occupied : slot.occupied = true) :
    (Daemon.closeSeen ready serving).slots[place]? = some slot ∨
      ∃ session ∈ serving.sessions, session.slot = slot ∧ session.preauth = false := by
  obtain ⟨session, mem, rfl⟩ := kept.mem_iff.1 ⟨List.mem_of_getElem? there, occupied⟩
  rw [Daemon.closeSeen, List.getElem?_map, there]
  cases isSeen : serving.seen ready session.pipe with
  | false => exact .inl (by simp [Session.slot, isSeen])
  | true =>
    rw [Serving.seen, Bool.and_eq_true, List.any_eq_true] at isSeen
    obtain ⟨_, other, mem', ended⟩ := isSeen
    rw [Bool.and_eq_true, decide_eq_true_eq, Bool.not_eq_true'] at ended
    cases List.inj_on_of_nodup_map kept.distinct mem' mem ended.1
    exact .inr ⟨session, mem, rfl, ended.2⟩

/-! ## Rounds -/

/-- Every slot in use stays, or its session has authenticated or exited. -/
def SlotsStay (before after : Serving) : Prop :=
  ∀ (place : Nat) (slot : Slot), before.slots[place]? = some slot → slot.occupied = true →
    after.slots[place]? = some slot ∨
      ∃ session ∈ before.sessions, session.slot = slot ∧ session.preauth = false

/-- Every descriptor is the pipe of a session, exactly if `fork` has not failed. -/
def Serving.Tight (serving : Serving) : Prop :=
  serving.failedForks = 0 ↔ ∀ fd ∈ serving.opened, fd ∈ serving.sessions.map Session.pipe

theorem Handled.tight (kept : serving.Kept limits) (handled : Handled limits serving after)
    (tight : serving.Tight) : after.Tight := by
  cases handled with
  | refused same => exact tight.trans (forall_congr' fun fd => imp_congr_left (same fd).symm)
  | leaked _ fresh left =>
    refine iff_of_false nofun fun all => ?_
    obtain ⟨session, mem, rfl⟩ := List.mem_map.1 (all _ left)
    exact fresh (kept.held session mem)
  | started _ _ _ fresh same =>
    refine tight.trans (forall_congr' fun fd => ?_)
    rw [same, List.map_cons, List.mem_cons]
    -- the new pipe is that of the new session, and of no other descriptor
    grind

theorem exists_handleSockets (kept : serving.Kept limits) (attempts : List Attempt) :
    ∃ after, attempts.foldlM (handleSocket limits) serving = .ok after ∧ after.Kept limits ∧
      (∀ (place : Nat) (slot : Slot), serving.slots[place]? = some slot →
        slot.occupied = true → after.slots[place]? = some slot) ∧
      (serving.Tight → after.Tight) := by
  induction attempts generalizing serving with
  | nil => exact ⟨serving, rfl, kept, fun _ _ there _ => there, id⟩
  | cons attempt rest ih =>
    obtain ⟨middle, first, handled⟩ := exists_handleSocket kept attempt
    obtain ⟨after, others, kept', slots, tight⟩ := ih (handled.kept kept)
    refine ⟨after, ?_, kept', fun place slot there occupied =>
      slots place slot (handled.slotStays there occupied) occupied, tight ∘ handled.tight kept⟩
    rw [List.foldlM_cons, first, Except.ok_bind, others]

theorem Serving.Tight.closeSeen (tight : serving.Tight) (ready : List Nat) :
    (closeSeen ready serving).Tight := by
  refine tight.trans ⟨fun all fd mem => ?_, fun all fd mem => ?_⟩
  · obtain ⟨mem, unseen⟩ := List.mem_filter.1 mem
    obtain ⟨session, mem', rfl⟩ := List.mem_map.1 (all fd mem)
    exact List.mem_map_of_mem (List.mem_filter.2 ⟨mem', unseen⟩)
  · cases isSeen : serving.seen ready fd with
    | false =>
      obtain ⟨session, mem', rfl⟩ := List.mem_map.1 (all fd (List.mem_filter.2 ⟨mem, by simp [isSeen]⟩))
      exact List.mem_map_of_mem (List.mem_filter.1 mem').1
    | true =>
      rw [Serving.seen, Bool.and_eq_true, List.any_eq_true] at isSeen
      obtain ⟨_, session, mem', ended⟩ := isSeen
      rw [Bool.and_eq_true, decide_eq_true_eq] at ended
      exact ended.1 ▸ List.mem_map_of_mem mem'

/-- What every round keeps, and when it frees slots. -/
theorem ends_step (kept : serving.Kept limits) (event : Event) :
    Ends (fun _ after => after.Kept limits ∧ SlotsStay serving after ∧
        (serving.Tight → after.Tight))
      (fun failure after => failure ≠ .nullDeref ∧ after = serving)
      (step limits event serving) := by
  cases event with
  | sessionEnds pipe =>
    have sessionsStay {β : Type} (part : Session → β) (other : ∀ session,
        part { session with preauth := false } = part session) :
        (serving.sessions.map fun session =>
          if session.pipe = pipe then { session with preauth := false } else session).map part =
          serving.sessions.map part := by
      rw [List.map_map]
      refine List.map_congr_left fun session _ => ?_
      dsimp only [Function.comp]
      split
      · exact other session
      · rfl
    have pipes := sessionsStay Session.pipe fun _ => rfl
    refine ⟨⟨kept.size, ?_, ?_, fun session mem => ?_, fun addr => ?_⟩,
      fun _ _ there _ => .inl there, fun tight => ?_⟩
    · exact (sessionsStay Session.slot fun _ => rfl) ▸ kept.slots
    · exact pipes ▸ kept.distinct
    · obtain ⟨session', mem', same⟩ := List.mem_map.1 (pipes ▸ List.mem_map_of_mem mem)
      exact same ▸ kept.held session' mem'
    · have addrs := sessionsStay Session.addr fun _ => rfl
      calc
        _ = _ := List.countP_map.symm
        _ = (serving.sessions.map Session.addr).countP (· = addr) := by rw [addrs]
        _ = _ := List.countP_map
        _ ≤ limits.perIp := kept.perIp addr
    · rw [Serving.Tight, pipes]
      exact tight
  | selected ready attempts =>
    obtain ⟨after, handled, kept', slots, tight⟩ :=
      exists_handleSockets (kept.closeSeen ready) attempts
    rw [step, round, handled]
    refine ⟨kept', fun place slot there occupied => ?_, fun tight' => tight (tight'.closeSeen ready)⟩
    exact (kept.seen ready there occupied).imp_left fun there' => slots place slot there' occupied
  | interrupted => exact ⟨kept, fun _ _ there _ => .inl there, id⟩
  | terminated => exact ⟨nofun, rfl⟩
  | selectFails => exact ⟨nofun, rfl⟩

theorem kept_start : (Serving.start limits).Kept limits where
  size := List.length_replicate
  slots := by simp [Serving.start, Slot.occupied]
  distinct := List.nodup_nil
  held := nofun
  perIp _ := Nat.zero_le _

theorem kept_runAll (events : List Event) :
    (finalState (runAll (step limits) events (Serving.start limits))).Kept limits := by
  refine runAll_invariant (fun event before kept => ?_) events kept_start
  exact ((ends_step kept event).imp (fun _ _ all => all.1) fun _ _ both => both.2 ▸ kept).finalState

/-- **The limits hold in every round**, also for the sessions that have ended and whose pipe
event was not seen.  Every slot in use has the address of its session, and stays until its
session has authenticated or exited. -/
theorem connectionLimits (limits : Limits) (events : List Event) :
    let serving := finalState (runAll (step limits) events (Serving.start limits))
    serving.sessions.length ≤ limits.clients ∧
    (∀ addr, serving.sessions.countP (·.addr = addr) ≤ limits.perIp) ∧
    (serving.sessions.map Session.slot).Perm (serving.slots.filter Slot.occupied) ∧
    ∀ event, Ends (fun _ after => SlotsStay serving after)
      (fun failure _ => failure ≠ .nullDeref) (step limits event serving) := by
  intro serving
  have kept : serving.Kept limits := kept_runAll events
  refine ⟨?_, kept.perIp, kept.slots, fun event => ?_⟩
  · calc
      serving.sessions.length = (serving.slots.filter Slot.occupied).length := by
        rw [← kept.slots.length_eq, List.length_map]
      _ ≤ serving.slots.length := List.length_filter_le _ _
      _ = limits.clients := kept.size
  · exact (ends_step kept event).imp (fun _ _ all => all.2.1) fun _ _ both => both.1

/-- **No descriptor is leaked exactly as long as `fork` has not failed**: those that are open are
the read ends of the occupied slots. -/
theorem opened_eq_childpipes_iff (limits : Limits) (events : List Event) :
    let serving := finalState (runAll (step limits) events (Serving.start limits))
    (∀ fd, fd ∈ serving.opened ↔ ∃ slot ∈ serving.slots, slot.childpipe = some fd) ↔
      serving.failedForks = 0 := by
  intro serving
  obtain ⟨kept, tight⟩ : serving.Kept limits ∧ serving.Tight := by
    let holds (serving : Serving) : Prop := serving.Kept limits ∧ serving.Tight
    have initially : holds (Serving.start limits) := ⟨kept_start, iff_of_true rfl nofun⟩
    refine runAll_invariant (fun event before (both : holds before) => ?_) events initially
    exact ((ends_step both.1 event).imp (fun _ _ all => ⟨all.1, all.2.2 both.2⟩)
      fun _ _ same => same.2 ▸ both).finalState
  have slots : ∀ fd, (∃ slot ∈ serving.slots, slot.childpipe = some fd) ↔
      fd ∈ serving.sessions.map Session.pipe := by
    intro fd
    constructor
    · rintro ⟨slot, mem, isFd⟩
      obtain ⟨session, mem', rfl⟩ := kept.mem_iff.1 ⟨mem, by rw [Slot.occupied, isFd]; rfl⟩
      cases isFd
      exact List.mem_map_of_mem mem'
    · intro mem
      obtain ⟨session, mem', rfl⟩ := List.mem_map.1 mem
      exact ⟨session.slot, (kept.mem_iff.2 ⟨session, mem', rfl⟩).1, rfl⟩
  have held : ∀ fd ∈ serving.sessions.map Session.pipe, fd ∈ serving.opened := by
    intro fd mem
    obtain ⟨session, mem', rfl⟩ := List.mem_map.1 mem
    exact kept.held session mem'
  refine Iff.trans (forall_congr' fun fd => ?_) tight.symm
  rw [slots]
  exact ⟨Iff.mp, fun pipe => ⟨pipe, held fd⟩⟩

/-- After a failed `fork` both ends of the pipe are open, and there is no slot that has one. -/
theorem opened_of_fork_fails :
    let serving := finalState (runAll (step ⟨30, 5⟩)
      [.selected [] [⟨some (5, [49]), some (6, 7), false⟩]] (Serving.start ⟨30, 5⟩))
    serving.opened = [6, 7] ∧ ∀ slot ∈ serving.slots, slot.childpipe = none := by
  decide +kernel

end Dropbear.Daemon
