/-
# Whose exit status a session gets

A session gets the exit status of the child that was started on it, when the server has
waited for that child, as long as the system does not give a new child the number of an
entry in the table of children, or that of the last exit status that was not found.
Entries stay in the table until the channel is removed, which may be long after the
child was waited for; and the last exit status stays until it is replaced.
-/

import Dropbear.Channels.Children
import Dropbear.Channels.Discipline
import Dropbear.Channels.Pending

namespace Dropbear.Channels

open Program

/-- What the table of children is about: where a session is, its process and its exit
status. -/
structure Session where
  address : Address
  pid : Nat
  exit : ExitInfo

def Entry.session (entry : Entry) : Option Session :=
  (entry.slot.channel.bind Channel.typedata).map fun chansess =>
    { address := entry.address
      pid := chansess.pid
      exit := chansess.exit }

def Table.session (table : Table) (number : Nat) : Option Session :=
  table.channels[number]?.bind Entry.session

/-- Every session has the exit status of its own child, once the server has waited for it,
and none before. -/
structure Server.Routed (server : Server) : Prop where
  filled : ∀ number session, server.table.session number = some session →
    session.exit = (server.waited number).getD .unfilled
  running : ∀ process ∈ server.processes, ∀ number, process.session = some number →
    server.waited number = none

/-- The table of children matches the sessions and the processes. -/
structure Server.Matched (server : Server) : Prop extends server.Routed where
  sound : server.table.Sound
  children : ∀ child ∈ server.childpids, child = ⟨-1, none⟩ ∨ ∃ number session,
    server.table.session number = some session ∧ child = ⟨session.pid, some session.address⟩ ∧
      0 < session.pid
  entered : ∀ number session, server.table.session number = some session → 0 < session.pid →
    ⟨session.pid, some session.address⟩ ∈ server.childpids
  distinct : ∀ number session number' session', server.table.session number = some session →
    server.table.session number' = some session' → session.pid = session'.pid → 0 < session.pid →
      number = number'
  unique : ∀ process ∈ server.processes, ∀ process' ∈ server.processes,
    process.pid = process'.pid → process = process'
  positive : ∀ process ∈ server.processes, 0 < process.pid
  belongs : ∀ process ∈ server.processes, ∀ number, process.session = some number →
    ∃ session, server.table.session number = some session ∧ session.pid = process.pid
  orphan : ∀ process ∈ server.processes, process.session = none →
    ∀ child ∈ server.childpids, child.pid ≠ process.pid
  stale : server.lastexit.exitpid ≠ -1 →
    ∀ child ∈ server.childpids, child.pid ≠ server.lastexit.exitpid
  started : ∀ number info, server.waited number = some info →
    ∃ session, server.table.session number = some session ∧ 0 < session.pid
  recorded : ∀ number info, server.waited number = some info → info.exitpid ≠ -1
  alive : ∀ number session, server.table.session number = some session → 0 < session.pid →
    server.waited number = none →
      ∃ process ∈ server.processes, process.session = some number ∧ process.pid = session.pid

theorem matched_svrChansessinitialise : svrChansessinitialise.Matched := by
  have nothing : ∀ number, svrChansessinitialise.table.session number = none := by
    intro number
    cases number with
    | zero => rfl
    | succ number => rfl
  exact
    { filled := fun number session found => by rw [nothing] at found; cases found
      running := fun _ listed => by cases listed
      sound := sound_chaninitialise
      children := fun child listed => .inl (List.mem_singleton.1 listed)
      entered := fun number session found => by rw [nothing] at found; cases found
      distinct := fun number session _ _ found => by rw [nothing] at found; cases found
      unique := fun _ listed => by cases listed
      positive := fun _ listed => by cases listed
      belongs := fun _ listed => by cases listed
      orphan := fun _ listed => by cases listed
      stale := fun notFree => absurd rfl notFree
      started := fun _ _ found => by cases found
      recorded := fun _ _ found => by cases found
      alive := fun number session found => by rw [nothing] at found; cases found }

/-! ## Sessions in the table -/

variable {channel : Channel}

section

variable {table : Table} {number : Nat} {entry entry' : Entry}

theorem Table.session_of_getElem? (found : table.channels[number]? = some entry) :
    table.session number = entry.session := by
  rw [Table.session, found]
  rfl

theorem Table.session_put (found : table.channels[number]? = some entry) :
    (table.put number entry').session = Function.update table.session number entry'.session := by
  funext other
  rw [Function.update_apply, Table.session, Table.put, List.getElem?_set]
  by_cases same : number = other
  · rw [if_pos same, if_pos (List.getElem?_eq_some_iff.1 found).1, if_pos same.symm]
    rfl
  · rw [if_neg same, if_neg (Ne.symm same)]
    rfl

theorem Table.session_eq_none : table.session number = none ↔ table.chansess number = none := by
  rw [Table.session, Table.chansess, Table.slot]
  cases table.channels[number]? with
  | none => exact ⟨fun _ => rfl, fun _ => rfl⟩
  | some entry => exact Option.map_eq_none_iff

/-- The channel under which a session is found. -/
theorem Table.exists_of_session {session : Session} (found : table.session number = some session) :
    ∃ entry channel chansess, table.channels[number]? = some entry ∧
      entry.slot.channel = some channel ∧ channel.typedata = some chansess ∧
      table.chansess number = some chansess ∧
      session = ⟨entry.address, chansess.pid, chansess.exit⟩ := by
  obtain ⟨entry, there, found⟩ := Option.bind_eq_some_iff.1 found
  obtain ⟨chansess, typedata, rfl⟩ := Option.map_eq_some_iff.1 found
  obtain ⟨channel, present, typedata'⟩ := Option.bind_eq_some_iff.1 typedata
  refine ⟨entry, channel, chansess, there, present, typedata', ?_, rfl⟩
  rw [Table.chansess, Table.slot, there]
  exact typedata

theorem Entry.session_of_present {chansess : ChanSess} (present : entry.slot.channel = some channel)
    (typedata : channel.typedata = some chansess) :
    entry.session = some ⟨entry.address, chansess.pid, chansess.exit⟩ := by
  rw [Entry.session, present]
  change (channel.typedata).map _ = _
  rw [typedata]
  rfl

/-- Two sessions are at different addresses. -/
theorem Table.Sound.session_apart (sound : table.Sound) {other : Nat} {session session' : Session}
    (found : table.session number = some session) (found' : table.session other = some session')
    (same : session.address = session'.address) : number = other := by
  have owner : ∀ {number : Nat} {session : Session}, table.session number = some session →
      ∃ pointer, table.owner number = some ⟨session.address, pointer⟩ := by
    intro number session found
    obtain ⟨entry, channel, _, there, present, _, _, rfl⟩ := Table.exists_of_session found
    exact ⟨entry.connPending,
      (Table.owner_of_getElem? there).trans (Entry.owner_of_present present)⟩
  obtain ⟨pointer, owner₁⟩ := owner found
  obtain ⟨pointer', owner₂⟩ := owner found'
  exact sound.linked.apart number other _ _ owner₁ owner₂ same

/-- Events that are not about children keep a session or remove it. -/
theorem Table.Touched.session {event : Event} {after : Table}
    (touched : table.Touched number event after) (quiet : event.concernsChildren = false) :
    after.session = table.session ∨
      after.session = Function.update table.session number none := by
  have others : ∀ other, other ≠ number → after.session other = table.session other := by
    intro other different
    rw [Table.session, Table.session, touched.others other different]
  have atNumber : after.session number = none ∨ after.session number = table.session number := by
    cases found' : after.session number with
    | none => exact .inl rfl
    | some session =>
      obtain ⟨entry', channel', chansess, there', present', typedata', _, rfl⟩ :=
        Table.exists_of_session found'
      obtain ⟨entry, there, address, came⟩ := touched.entry entry' there'
      obtain ⟨channel, present, may⟩ := came channel' present'
      have same : channel'.identity = channel.identity := by
        cases event with
        | recvRequest => cases quiet
        | childExit => cases quiet
        | _ => exact may
      have typedata : channel.typedata = some chansess :=
        (congrArg Identity.typedata same).symm.trans typedata'
      right
      rw [Table.session_of_getElem? there, Entry.session_of_present present typedata, address]
  rcases atNumber with gone | same
  · right
    funext other
    rw [Function.update_apply]
    split
    case _ isNumber => rw [isNumber, gone]
    case _ different => exact others other different
  · left
    funext other
    by_cases isNumber : other = number
    · rw [isNumber, same]
    · exact others other isNumber

end

/-! ## What becomes of the children -/

theorem ExitInfo.exitpid_store (info : ExitInfo) (pid : Nat) (status : WaitStatus) :
    (info.store pid status).exitpid = pid := by
  cases status <;> rfl

variable {childpids : List ChildPid} {address : Address} {child : ChildPid}

theorem mem_clearchildpids (listed : child ∈ clearchildpids childpids address) :
    child = ⟨-1, none⟩ ∨ child ∈ childpids ∧ child.chansess ≠ some address := by
  obtain ⟨before, mem, rfl⟩ := List.mem_map.1 listed
  split
  · exact .inl rfl
  case _ other => exact .inr ⟨mem, other⟩

/-- A process whose channel is gone no longer belongs to it. -/
theorem mem_forget {server : Server} {number : Nat} {process : Process}
    (listed : process ∈ (server.forget number).processes) :
    ∃ before ∈ server.processes, process.pid = before.pid ∧
      (before.session = some number ∧ process.session = none ∨
        before.session ≠ some number ∧ process = before) := by
  obtain ⟨before, mem, rfl⟩ := List.mem_map.1 listed
  refine ⟨before, mem, ?_⟩
  split
  case _ mine => exact ⟨rfl, .inl ⟨mine, rfl⟩⟩
  case _ other => exact ⟨rfl, .inr ⟨other, rfl⟩⟩

variable {pid : Nat}

theorem mem_addchildpid (listed : child ∈ addchildpid childpids address pid) :
    child = ⟨pid, some address⟩ ∨ child ∈ childpids := by
  rw [addchildpid] at listed
  split at listed
  · exact (List.mem_or_eq_of_mem_set listed).symm
  · rcases List.mem_append.1 listed with mem | mem
    · exact .inr mem
    · exact .inl (List.mem_singleton.1 mem)

theorem new_mem_addchildpid (childpids : List ChildPid) (address : Address) (pid : Nat) :
    ⟨pid, some address⟩ ∈ addchildpid childpids address pid := by
  rw [addchildpid]
  split
  case _ i search =>
    obtain ⟨lt, _⟩ := List.findIdx?_eq_some_iff_getElem.1 search
    exact List.mem_set lt _
  case _ => exact List.mem_append_right _ (List.mem_singleton_self _)

/-- An entry in use is not overwritten. -/
theorem mem_addchildpid_of_mem (listed : child ∈ childpids) (inUse : child.pid ≠ -1) :
    child ∈ addchildpid childpids address pid := by
  rw [addchildpid]
  split
  case _ i search =>
    obtain ⟨lt, free, _⟩ := List.findIdx?_eq_some_iff_getElem.1 search
    obtain ⟨j, found⟩ := List.mem_iff_getElem?.1 listed
    refine List.mem_iff_getElem?.2 ⟨j, ?_⟩
    rw [List.getElem?_set_ne]
    · exact found
    · rintro rfl
      rw [List.getElem?_eq_getElem lt] at found
      cases found
      exact inUse (of_decide_eq_true free)
  case _ => exact List.mem_append_left _ listed

/-- A process number that is neither in the table of children nor that of the last exit
status. -/
def Server.Unused (server : Server) (pid : Nat) : Prop :=
  (∀ child ∈ server.childpids, child.pid ≠ pid) ∧ server.lastexit.exitpid ≠ pid

namespace Server.Matched

variable {server : Server} {table : Table} {number : Nat} {session : Session}

/-- The sessions are as they were. -/
theorem sameSessions (matched : server.Matched) (sound : table.Sound)
    (same : table.session = server.table.session) : Matched { server with table := table } where
  filled := by
    rw [same]
    exact matched.filled
  running := matched.running
  sound := sound
  children := by
    rw [same]
    exact matched.children
  entered := by
    rw [same]
    exact matched.entered
  distinct := by
    rw [same]
    exact matched.distinct
  unique := matched.unique
  positive := matched.positive
  belongs := by
    rw [same]
    exact matched.belongs
  orphan := matched.orphan
  stale := matched.stale
  started := by
    rw [same]
    exact matched.started
  recorded := matched.recorded
  alive := by
    rw [same]
    exact matched.alive

/-- A session is opened. -/
theorem opened (matched : server.Matched) (sound : table.Sound)
    (new : server.table.session number = none) (sessions : table.session =
      Function.update server.table.session number (some ⟨address, 0, .unfilled⟩)) :
    Matched { server with table := table } := by
  have old : ∀ other session, table.session other = some session → 0 < session.pid →
      server.table.session other = some session := by
    intro other session found positive
    rcases update_cases (sessions ▸ found) with ⟨_, rfl⟩ | ⟨_, found⟩
    · cases positive
    · exact found
  have kept : ∀ other session, server.table.session other = some session →
      table.session other = some session := by
    intro other session found
    rw [sessions, Function.update_of_ne]
    · exact found
    · rintro rfl
      rw [new] at found
      cases found
  refine
    { filled := ?_
      running := matched.running
      sound := sound
      children := ?_
      entered := fun other session found positive =>
        matched.entered other session (old other session found positive) positive
      distinct := ?_
      unique := matched.unique
      positive := matched.positive
      belongs := ?_
      orphan := matched.orphan
      stale := matched.stale
      started := ?_
      recorded := matched.recorded
      alive := fun other session found positive =>
        matched.alive other session (old other session found positive) positive }
  · intro other session found
    rcases update_cases (sessions ▸ found) with ⟨rfl, rfl⟩ | ⟨_, found⟩
    · cases waited : server.waited other with
      | none => rfl
      | some info =>
        obtain ⟨session, there, _⟩ := matched.started other info waited
        rw [new] at there
        cases there
    · exact matched.filled other session found
  · intro child listed
    rcases matched.children child listed with free | ⟨other, session, found, is, positive⟩
    · exact .inl free
    · exact .inr ⟨other, session, kept other session found, is, positive⟩
  · intro other session other' session' found found' same positive
    exact matched.distinct other session other' session' (old other session found positive)
      (old other' session' found' (same ▸ positive)) same positive
  · intro process listed other belongs
    obtain ⟨session, found, pid⟩ := matched.belongs process listed other belongs
    exact ⟨session, kept other session found, pid⟩
  · intro other info waited
    obtain ⟨session, found, positive⟩ := matched.started other info waited
    exact ⟨session, kept other session found, positive⟩

/-- A session is removed: its entries are cleared, and its process no longer belongs to
it. -/
theorem removed (matched : server.Matched) (sound : table.Sound)
    (found : server.table.session number = some session)
    (sessions : table.session = Function.update server.table.session number none) :
    Matched
      { server.forget number with
        table := table
        childpids := clearchildpids server.childpids session.address } := by
  have old : ∀ other session', table.session other = some session' →
      other ≠ number ∧ server.table.session other = some session' :=
    fun other session' found' => update_none (sessions ▸ found')
  have kept : ∀ other session', other ≠ number → server.table.session other = some session' →
      table.session other = some session' := by
    intro other session' different found'
    rw [sessions, Function.update_of_ne different]
    exact found'
  have waited : ∀ other, other ≠ number → (server.forget number).waited other =
      server.waited other := fun other different => if_neg different
  refine
    { filled := ?_
      running := ?_
      sound := sound
      children := ?_
      entered := ?_
      distinct := ?_
      unique := ?_
      positive := ?_
      belongs := ?_
      orphan := ?_
      stale := ?_
      started := ?_
      recorded := ?_
      alive := ?_ }
  · intro other session' found'
    obtain ⟨different, found'⟩ := old other session' found'
    rw [waited other different]
    exact matched.filled other session' found'
  · intro process mem other belongs
    obtain ⟨before, mem₀, _, ⟨_, gone⟩ | ⟨different, rfl⟩⟩ := mem_forget mem
    · rw [gone] at belongs
      cases belongs
    · rw [waited other (fun isNumber => different (isNumber ▸ belongs))]
      exact matched.running process mem₀ other belongs
  · intro child mem
    rcases mem_clearchildpids mem with free | ⟨mem₀, other⟩
    · exact .inl free
    · rcases matched.children child mem₀ with free | ⟨n, session', found', rfl, positive⟩
      · exact .inl free
      · refine .inr ⟨n, session', kept n session' ?_ found', rfl, positive⟩
        rintro rfl
        cases found.symm.trans found'
        exact other rfl
  · intro other session' found' positive
    obtain ⟨different, found'⟩ := old other session' found'
    refine List.mem_map.2 ⟨_, matched.entered other session' found' positive, if_neg ?_⟩
    intro same
    exact different (matched.sound.session_apart found' found (Option.some_inj.1 same))
  · intro n session₁ n' session₂ found₁ found₂
    exact matched.distinct n session₁ n' session₂ (old n session₁ found₁).2
      (old n' session₂ found₂).2
  · intro process mem process' mem' same
    obtain ⟨before, mem₀, rfl⟩ := List.mem_map.1 mem
    obtain ⟨before', mem₀', rfl⟩ := List.mem_map.1 mem'
    have pid : ∀ process : Process, (if process.session = some number
        then { process with session := none } else process).pid = process.pid := by
      intro process
      split <;> rfl
    rw [pid, pid] at same
    rw [matched.unique before mem₀ before' mem₀' same]
  · intro process mem
    obtain ⟨before, mem₀, pid, _⟩ := mem_forget mem
    rw [pid]
    exact matched.positive before mem₀
  · intro process mem other belongs
    obtain ⟨before, mem₀, _, ⟨_, gone⟩ | ⟨different, rfl⟩⟩ := mem_forget mem
    · rw [gone] at belongs
      cases belongs
    · obtain ⟨session', found', pid⟩ := matched.belongs process mem₀ other belongs
      refine ⟨session', kept other session' ?_ found', pid⟩
      rintro rfl
      exact different belongs
  · intro process mem alone child mem'
    obtain ⟨before, mem₀, pid, owner⟩ := mem_forget mem
    have positive := matched.positive before mem₀
    rw [pid]
    rcases mem_clearchildpids mem' with rfl | ⟨mem₀', other⟩
    · change (-1 : Int) ≠ _
      omega
    · rcases owner with ⟨mine, _⟩ | ⟨_, rfl⟩
      · obtain ⟨session', found', pid'⟩ := matched.belongs before mem₀ number mine
        cases found.symm.trans found'
        rcases matched.children child mem₀' with rfl | ⟨n, session', found', rfl, positive'⟩
        · change (-1 : Int) ≠ _
          omega
        · intro same
          have same : session'.pid = session.pid := by
            change (session'.pid : Int) = before.pid at same
            omega
          have isNumber := matched.distinct n session' number session found' found same positive'
          cases isNumber
          cases found.symm.trans found'
          exact other rfl
      · exact matched.orphan process mem₀ alone child mem₀'
  · intro notFree child mem
    rcases mem_clearchildpids mem with rfl | ⟨mem₀, _⟩
    · exact fun same => notFree same.symm
    · exact matched.stale notFree child mem₀
  · intro other info isWaited
    by_cases isNumber : other = number
    · rw [show (server.forget number).waited other = none from if_pos isNumber] at isWaited
      cases isWaited
    · rw [waited other isNumber] at isWaited
      obtain ⟨session', found', positive⟩ := matched.started other info isWaited
      exact ⟨session', kept other session' isNumber found', positive⟩
  · intro other info isWaited
    by_cases isNumber : other = number
    · rw [show (server.forget number).waited other = none from if_pos isNumber] at isWaited
      cases isWaited
    · exact matched.recorded other info (waited other isNumber ▸ isWaited)
  · intro other session' found' positive unwaited
    obtain ⟨different, found'⟩ := old other session' found'
    rw [waited other different] at unwaited
    obtain ⟨process, mem, mine, pid⟩ := matched.alive other session' found' positive unwaited
    have stays : process.session ≠ some number := by
      rw [mine]
      exact fun same => different (Option.some_inj.1 same)
    exact ⟨process, List.mem_map.2 ⟨process, mem, if_neg stays⟩, mine, pid⟩

/-- A child is started. -/
theorem childStarted (matched : server.Matched) (sound : table.Sound)
    (found : server.table.session number = some session) (idle : session.pid = 0)
    (positive : 0 < pid) (unused : server.Unused pid)
    (free : ∀ process ∈ server.processes, process.pid ≠ pid) (sessions : table.session =
      Function.update server.table.session number (some { session with pid := pid })) :
    Matched
      { server with
        table := table
        childpids := addchildpid server.childpids session.address pid
        processes := server.processes ++ [⟨pid, none, some number⟩] } := by
  have cases' : ∀ other session', table.session other = some session' →
      other = number ∧ session' = { session with pid := pid } ∨
        other ≠ number ∧ server.table.session other = some session' :=
    fun other session' found' => update_cases (sessions ▸ found')
  have kept : ∀ other session', server.table.session other = some session' → 0 < session'.pid →
      table.session other = some session' := by
    intro other session' found' positive
    rw [sessions, Function.update_of_ne]
    · exact found'
    · rintro rfl
      cases found.symm.trans found'
      omega
  have here : table.session number = some { session with pid := pid } := by
    rw [sessions, Function.update_self]
  have notWaited : server.waited number = none := by
    cases waited : server.waited number with
    | none => rfl
    | some info =>
      obtain ⟨session', found', positive⟩ := matched.started number info waited
      cases found.symm.trans found'
      omega
  -- no other session has a child of this number
  have fresh : ∀ other session', server.table.session other = some session' →
      session'.pid ≠ pid := by
    intro other session' found' same
    have entered := matched.entered other session' found' (same ▸ positive)
    apply unused.1 _ entered
    rw [same]
  refine
    { filled := ?_
      running := ?_
      sound := sound
      children := ?_
      entered := ?_
      distinct := ?_
      unique := ?_
      positive := ?_
      belongs := ?_
      orphan := ?_
      stale := ?_
      started := ?_
      recorded := matched.recorded
      alive := ?_ }
  · intro other session' found'
    rcases cases' other session' found' with ⟨rfl, rfl⟩ | ⟨_, found'⟩
    · exact matched.filled other session found
    · exact matched.filled other session' found'
  · intro process mem other belongs
    rcases List.mem_append.1 mem with mem | mem
    · exact matched.running process mem other belongs
    · cases List.mem_singleton.1 mem
      cases belongs
      exact notWaited
  · intro child mem
    rcases mem_addchildpid mem with rfl | mem
    · exact .inr ⟨number, _, here, rfl, positive⟩
    · rcases matched.children child mem with free | ⟨n, session', found', rfl, positive⟩
      · exact .inl free
      · exact .inr ⟨n, session', kept n session' found' positive, rfl, positive⟩
  · intro other session' found' positive'
    rcases cases' other session' found' with ⟨rfl, rfl⟩ | ⟨_, found'⟩
    · exact new_mem_addchildpid _ _ _
    · apply mem_addchildpid_of_mem (matched.entered other session' found' positive')
      change (session'.pid : Int) ≠ -1
      omega
  · intro n session₁ n' session₂ found₁ found₂ same positive'
    rcases cases' n session₁ found₁ with ⟨first, rfl⟩ | ⟨_, found₁⟩
    · rcases cases' n' session₂ found₂ with ⟨second, rfl⟩ | ⟨_, found₂⟩
      · rw [first, second]
      · exact absurd same.symm (fresh n' session₂ found₂)
    · rcases cases' n' session₂ found₂ with ⟨_, rfl⟩ | ⟨_, found₂⟩
      · exact absurd same (fresh n session₁ found₁)
      · exact matched.distinct n session₁ n' session₂ found₁ found₂ same positive'
  · intro process mem process' mem' same
    rcases List.mem_append.1 mem with mem | mem
    · rcases List.mem_append.1 mem' with mem' | mem'
      · exact matched.unique process mem process' mem' same
      · cases List.mem_singleton.1 mem'
        exact absurd same (free process mem)
    · cases List.mem_singleton.1 mem
      rcases List.mem_append.1 mem' with mem' | mem'
      · exact absurd same.symm (free process' mem')
      · cases List.mem_singleton.1 mem'
        rfl
  · intro process mem
    rcases List.mem_append.1 mem with mem | mem
    · exact matched.positive process mem
    · cases List.mem_singleton.1 mem
      exact positive
  · intro process mem other belongs
    rcases List.mem_append.1 mem with mem | mem
    · obtain ⟨session', found', same⟩ := matched.belongs process mem other belongs
      have positive' := matched.positive process mem
      exact ⟨session', kept other session' found' (same ▸ positive'), same⟩
    · cases List.mem_singleton.1 mem
      cases belongs
      exact ⟨_, here, rfl⟩
  · intro process mem alone child mem'
    rcases List.mem_append.1 mem with mem | mem
    · rcases mem_addchildpid mem' with rfl | mem'
      · intro same
        have same : pid = process.pid := by
          change (pid : Int) = process.pid at same
          omega
        exact free process mem same.symm
      · exact matched.orphan process mem alone child mem'
    · cases List.mem_singleton.1 mem
      cases alone
  · intro notFree child mem
    rcases mem_addchildpid mem with rfl | mem
    · exact fun same => unused.2 same.symm
    · exact matched.stale notFree child mem
  · intro other info waited
    obtain ⟨session', found', positive'⟩ := matched.started other info waited
    exact ⟨session', kept other session' found' positive', positive'⟩
  · intro other session' found' positive' unwaited
    rcases cases' other session' found' with ⟨rfl, rfl⟩ | ⟨_, found'⟩
    · exact ⟨_, List.mem_append_right _ (List.mem_singleton.2 rfl), rfl, rfl⟩
    · obtain ⟨process, mem, mine, pid'⟩ := matched.alive other session' found' positive' unwaited
      exact ⟨process, List.mem_append_left _ mem, mine, pid'⟩

variable {process : Process}

/-- The child of a session is waited for. -/
theorem waitedFor (matched : server.Matched) (sound : table.Sound)
    (listed : process ∈ server.processes) (mine : process.session = some number)
    (found : server.table.session number = some session) (status : WaitStatus)
    (sessions : table.session = Function.update server.table.session number
      (some { session with exit := session.exit.store process.pid status })) :
    Matched
      { server with
        table := table
        processes := server.processes.filter (·.pid ≠ process.pid)
        waited := fun other =>
          if process.session = some other then some (ExitInfo.unfilled.store process.pid status)
          else server.waited other } := by
  have cases' : ∀ other session', table.session other = some session' →
      other = number ∧ session' = { session with exit := session.exit.store process.pid status } ∨
        other ≠ number ∧ server.table.session other = some session' :=
    fun other session' found' => update_cases (sessions ▸ found')
  -- sessions keep their place and their process
  have kept : ∀ other session', server.table.session other = some session' →
      ∃ session₂, table.session other = some session₂ ∧ session₂.pid = session'.pid ∧
        session₂.address = session'.address := by
    intro other session' found'
    rw [sessions, Function.update_apply]
    split
    case _ same =>
      cases same
      cases found.symm.trans found'
      exact ⟨_, rfl, rfl, rfl⟩
    case _ => exact ⟨session', found', rfl, rfl⟩
  have old : ∀ other session', table.session other = some session' →
      ∃ session₂, server.table.session other = some session₂ ∧ session₂.pid = session'.pid ∧
        session₂.address = session'.address := by
    intro other session' found'
    rcases cases' other session' found' with ⟨rfl, rfl⟩ | ⟨_, found'⟩
    · exact ⟨session, found, rfl, rfl⟩
    · exact ⟨session', found', rfl, rfl⟩
  have others : ∀ other, other ≠ number → ¬ process.session = some other := by
    intro other different same
    exact different (Option.some_inj.1 (same.symm.trans mine))
  refine
    { filled := ?_
      running := ?_
      sound := sound
      children := ?_
      entered := ?_
      distinct := ?_
      unique := ?_
      positive := ?_
      belongs := ?_
      orphan := ?_
      stale := matched.stale
      started := ?_
      recorded := ?_
      alive := ?_ }
  · intro other session' found'
    rcases cases' other session' found' with ⟨rfl, rfl⟩ | ⟨different, found'⟩
    · have unfilled := matched.filled other session found
      rw [matched.running process listed other mine] at unfilled
      change session.exit.store process.pid status = Option.getD (if _ then _ else _) _
      rw [if_pos mine, unfilled]
      rfl
    · change session'.exit = Option.getD (if _ then _ else _) _
      rw [if_neg (others other different)]
      exact matched.filled other session' found'
  · intro process' mem other belongs
    obtain ⟨mem, different⟩ := List.mem_filter.1 mem
    change (if _ then _ else _) = none
    rw [if_neg]
    · exact matched.running process' mem other belongs
    · intro same
      obtain ⟨session₁, found₁, pid₁⟩ := matched.belongs process listed other same
      obtain ⟨session₂, found₂, pid₂⟩ := matched.belongs process' mem other belongs
      cases found₁.symm.trans found₂
      exact of_decide_eq_true different (pid₂.symm.trans pid₁)
  · intro child mem
    rcases matched.children child mem with free | ⟨n, session', found', rfl, positive⟩
    · exact .inl free
    · obtain ⟨session₂, found₂, pid, address⟩ := kept n session' found'
      refine .inr ⟨n, session₂, found₂, ?_, pid ▸ positive⟩
      rw [pid, address]
  · intro other session' found' positive
    obtain ⟨session₂, found₂, pid, address⟩ := old other session' found'
    rw [← pid, ← address]
    exact matched.entered other session₂ found₂ (pid ▸ positive)
  · intro n session₁ n' session₂ found₁ found₂ same positive
    obtain ⟨before₁, there₁, pid₁, _⟩ := old n session₁ found₁
    obtain ⟨before₂, there₂, pid₂, _⟩ := old n' session₂ found₂
    exact matched.distinct n before₁ n' before₂ there₁ there₂ (pid₁.trans (same.trans pid₂.symm))
      (pid₁ ▸ positive)
  · intro process₁ mem₁ process₂ mem₂
    exact matched.unique process₁ (List.mem_filter.1 mem₁).1 process₂ (List.mem_filter.1 mem₂).1
  · intro process' mem
    exact matched.positive process' (List.mem_filter.1 mem).1
  · intro process' mem other belongs
    obtain ⟨session', found', pid⟩ :=
      matched.belongs process' (List.mem_filter.1 mem).1 other belongs
    obtain ⟨session₂, found₂, pid₂, _⟩ := kept other session' found'
    exact ⟨session₂, found₂, pid₂.trans pid⟩
  · intro process' mem
    exact matched.orphan process' (List.mem_filter.1 mem).1
  · intro other info waited
    change (if _ then _ else _) = some info at waited
    split at waited
    case _ same =>
      have positive := matched.positive process listed
      obtain ⟨session', found', pid⟩ := matched.belongs process listed other same
      obtain ⟨session₂, found₂, pid₂, _⟩ := kept other session' found'
      exact ⟨session₂, found₂, by omega⟩
    case _ =>
      obtain ⟨session', found', positive⟩ := matched.started other info waited
      obtain ⟨session₂, found₂, pid₂, _⟩ := kept other session' found'
      exact ⟨session₂, found₂, pid₂ ▸ positive⟩
  · intro other info waited
    change (if _ then _ else _) = some info at waited
    split at waited
    case _ =>
      cases waited
      rw [ExitInfo.exitpid_store]
      omega
    case _ => exact matched.recorded other info waited
  · intro other session' found' positive unwaited
    change (if _ then _ else _) = none at unwaited
    split at unwaited
    case _ => cases unwaited
    case _ another =>
      obtain ⟨session₂, found₂, pid, _⟩ := old other session' found'
      obtain ⟨process', mem, mine', pid'⟩ :=
        matched.alive other session₂ found₂ (pid ▸ positive) unwaited
      refine ⟨process', List.mem_filter.2 ⟨mem, decide_eq_true fun same => ?_⟩, mine',
        pid'.trans pid⟩
      exact another (matched.unique process' mem process listed same ▸ mine')

/-- A child whose channel is gone is waited for. -/
theorem waitedOrphan (matched : server.Matched) (listed : process ∈ server.processes)
    (alone : process.session = none) (status : WaitStatus) :
    Matched
      { server with
        lastexit := server.lastexit.store process.pid status
        processes := server.processes.filter (·.pid ≠ process.pid)
        waited := fun other =>
          if process.session = some other then some (ExitInfo.unfilled.store process.pid status)
          else server.waited other } := by
  have waited : (fun other => if process.session = some other
      then some (ExitInfo.unfilled.store process.pid status) else server.waited other) =
        server.waited := by
    funext other
    rw [alone, if_neg nofun]
  rw [waited]
  exact
    { matched with
      running := fun process' mem => matched.running process' (List.mem_filter.1 mem).1
      unique := fun process₁ mem₁ process₂ mem₂ =>
        matched.unique process₁ (List.mem_filter.1 mem₁).1 process₂ (List.mem_filter.1 mem₂).1
      positive := fun process' mem => matched.positive process' (List.mem_filter.1 mem).1
      belongs := fun process' mem => matched.belongs process' (List.mem_filter.1 mem).1
      orphan := fun process' mem => matched.orphan process' (List.mem_filter.1 mem).1
      stale := by
        intro _ child mem
        rw [ExitInfo.exitpid_store]
        exact matched.orphan process listed alone child mem
      alive := by
        intro number session found positive unwaited
        obtain ⟨process', mem, mine, pid⟩ := matched.alive number session found positive unwaited
        refine ⟨process', List.mem_filter.2 ⟨mem, decide_eq_true fun same => ?_⟩, mine, pid⟩
        rw [matched.unique process' mem process listed same, alone] at mine
        cases mine }

/-- A process ends. -/
theorem ended (matched : server.Matched) (pid : Nat) (status : WaitStatus) :
    Matched
      { server with
        processes := server.processes.map fun process =>
          if process.pid = pid ∧ process.status = none then { process with status := some status }
          else process } := by
  have same : ∀ process : Process,
      (if process.pid = pid ∧ process.status = none then { process with status := some status }
        else process).pid = process.pid ∧
      (if process.pid = pid ∧ process.status = none then { process with status := some status }
        else process).session = process.session := by
    intro process
    split
    · exact ⟨rfl, rfl⟩
    · exact ⟨rfl, rfl⟩
  refine
    { matched with
      running := ?_
      unique := ?_
      positive := ?_
      belongs := ?_
      orphan := ?_
      alive := ?_ }
  · intro process mem
    obtain ⟨before, mem₀, rfl⟩ := List.mem_map.1 mem
    rw [(same before).2]
    exact matched.running before mem₀
  · intro process mem process' mem' samePid
    obtain ⟨before, mem₀, rfl⟩ := List.mem_map.1 mem
    obtain ⟨before', mem₀', rfl⟩ := List.mem_map.1 mem'
    rw [(same before).1, (same before').1] at samePid
    rw [matched.unique before mem₀ before' mem₀' samePid]
  · intro process mem
    obtain ⟨before, mem₀, rfl⟩ := List.mem_map.1 mem
    rw [(same before).1]
    exact matched.positive before mem₀
  · intro process mem
    obtain ⟨before, mem₀, rfl⟩ := List.mem_map.1 mem
    rw [(same before).1, (same before).2]
    exact matched.belongs before mem₀
  · intro process mem
    obtain ⟨before, mem₀, rfl⟩ := List.mem_map.1 mem
    rw [(same before).1, (same before).2]
    exact matched.orphan before mem₀
  · intro number session found positive unwaited
    obtain ⟨process, mem, mine, pid⟩ := matched.alive number session found positive unwaited
    exact ⟨_, List.mem_map_of_mem mem, (same process).2.trans mine, (same process).1.trans pid⟩

end Server.Matched

/-! ## Events for a channel -/

variable {outcome : Outcome}

section

variable {server : Server} {number : Nat}

theorem ends_onTable {α : Type} {run : TableM Unit} {next : Unit → ServerM α}
    {kept : Table → Prop} {failing : Fault → Table → Prop} {returned : α → Server → Prop}
    {failed : Fault → Server → Prop} (ends : Ends (fun _ => kept) failing (run server.table))
    (fails : ∀ fault table, failing fault table → failed fault { server with table := table })
    (rest : ∀ table, kept table → Ends returned failed (next () { server with table := table })) :
    Ends returned failed ((onTable run >>= next) server) := by
  cases ran : run server.table with
  | ok value table =>
    have done : onTable run server = .ok () { server with table := table } := by
      rw [onTable, ran]
    rw [ran] at ends
    rw [EStateM.bind_of_ok done]
    exact rest table ends
  | error fault table =>
    have done : onTable run server = .error fault { server with table := table } := by
      rw [onTable, ran]
    rw [ran] at ends
    rw [EStateM.bind_of_error done]
    exact fails fault table ends

variable {table : Table}

/-- The program ends, and no exit status has changed. -/
theorem Server.Routed.ofSessions (routed : server.Routed)
    (same : ∀ number session, table.session number = some session →
      ∃ before, server.table.session number = some before ∧ session.exit = before.exit) :
    Server.Routed { server with table := table } where
  filled := by
    intro number session found
    obtain ⟨before, there, exit⟩ := same number session found
    rw [exit]
    exact routed.filled number before there
  running := routed.running

theorem Server.Matched.inUse (matched : server.Matched) (listed : child ∈ server.childpids)
    (mine : child.chansess = some address) :
    child.pid > 0 := by
  rcases matched.children child listed with rfl | ⟨n, session, _, rfl, positive⟩
  · cases mine
  · change (session.pid : Int) > 0
    omega

theorem cleanupchansess_eq (inUse : ∀ child ∈ server.childpids,
      child.chansess = some address → child.pid > 0) (number : Nat) :
    cleanupchansess number address server =
      .ok () { server.forget number with childpids := clearchildpids server.childpids address } := by
  have fine : (server.childpids.any fun child =>
      child.chansess = some address ∧ ¬ child.pid > 0) = false := by
    rw [List.any_eq_false]
    intro child listed bad
    obtain ⟨mine, notPositive⟩ := of_decide_eq_true bad
    exact notPositive (inUse child listed mine)
  change (if server.childpids.any _ then _ else _ : ServerM Unit) server = _
  rw [fine]
  rfl

theorem ends_serveChannel (opts : Opts) (matched : server.Matched) (number : Nat) {event : Event}
    (quiet : event.concernsChildren = false) :
    Ends (fun _ after => after.Matched) (fun _ after => after.Routed)
      (serveChannel opts number event server) := by
  have running : event.opens = false := by
    cases event with
    | recvRequest => cases quiet
    | childExit => cases quiet
    | _ => exact quiet
  rw [serveChannel, EStateM.get_bind_apply]
  apply ends_onTable (ends_forChannel opts matched.sound number running)
  · intro fault table ⟨_, touched⟩
    apply matched.toRouted.ofSessions
    intro other session found
    rcases touched.session quiet with same | removed
    · exact ⟨session, same ▸ found, rfl⟩
    · exact ⟨session, (update_none (removed ▸ found)).2, rfl⟩
  · rintro table ⟨sound, touched⟩
    dsimp only
    rw [EStateM.get_bind_apply]
    cases before : server.table.session number with
    | none =>
      have same : table.session = server.table.session := by
        rcases touched.session quiet with same | removed
        · exact same
        · rw [removed, ← before, Function.update_eq_self]
      rw [Table.session_eq_none.1 before]
      have kept := matched.sameSessions sound same
      cases server.table.channels[number]? <;> exact kept
    | some session =>
      obtain ⟨entry, channel, chansess, there, _, _, isChansess, rfl⟩ :=
        Table.exists_of_session before
      rw [there, isChansess]
      cases after : table.chansess number with
      | none =>
        have removed : table.session = Function.update server.table.session number none := by
          rcases touched.session quiet with same | removed
          · rw [← Table.session_eq_none, same, before] at after
            cases after
          · exact removed
        have inUse : ∀ child ∈ Server.childpids { server with table := table },
            child.chansess = some entry.address → child.pid > 0 :=
          fun child listed mine => matched.inUse listed mine
        dsimp only
        rw [cleanupchansess_eq inUse]
        exact matched.removed sound before removed
      | some chansess' =>
        have same : table.session = server.table.session := by
          rcases touched.session quiet with same | removed
          · exact same
          · have gone : table.session number = none := by
              rw [removed, Function.update_self]
            rw [Table.session_eq_none.1 gone] at after
            cases after
        exact matched.sameSessions sound same

/-! ## Requests -/

/-- A request leaves a channel that is there. -/
theorem ends_forChannel_request (opts : Opts) {entry : Entry}
    (found : table.channels[number]? = some entry) (present : entry.slot.channel = some channel)
    (payload : Buffer) (outcome : Outcome) :
    Ends (fun _ after => ∃ slot, slot.Has (channel.identity.Requested payload outcome) ∧
        after = table.put number { entry with slot := slot })
      (fun _ after => ∃ slot, slot.Has (channel.identity.Requested payload outcome) ∧
        after = table.put number { entry with slot := slot })
      (forChannel opts number (.recvRequest payload outcome) table) := by
  have asked : Ends (fun _ after => after.Has (channel.identity.Requested payload outcome))
      (fun _ after => after.Has (channel.identity.Requested payload outcome))
      (step opts number (.recvRequest payload outcome) entry.slot) := by
    apply ends_getchannelMsg
    · intro missing
      rw [missing] at present
      cases present
    · intro channel' found'
      cases found'.symm.trans present
      exact ends_recvMsgChannelRequest_identity opts present payload
  rw [forChannel, EStateM.get_bind_apply, found]
  apply ends_onSlot found asked
  · exact fun failure slot has => ⟨slot, has, rfl⟩
  · intro slot has
    have kept := has
    obtain ⟨channel', present', _⟩ := kept
    rw [theEntry_bind (Table.getElem?_put found), if_neg]
    · exact ⟨slot, has, rfl⟩
    · rw [@Entry.isNull_of_present _ { entry with slot := slot } present', Bool.and_false]
      exact Bool.false_ne_true

/-- The last exit status that was not found is not found later either. -/
theorem checkLastexit_eq (matched : server.Matched) : checkLastexit server = .ok () server := by
  rw [checkLastexit, EStateM.get_bind_apply]
  split
  case _ notFree =>
    have absent : server.childpids.find? (fun child => child.pid = server.lastexit.exitpid) =
        none := by
      rw [List.find?_eq_none]
      intro child listed same
      exact matched.stale notFree child listed (of_decide_eq_true same)
    rw [absent]
    rfl
  case _ => rfl

/-- The numbers that the system gives out are not in use. -/
theorem given_free {processes : List Process}
    (started : (outcome.given processes).spawned.map (·.pid.1) = some pid ∨
      (outcome.given processes).forked.map (·.1) = some pid) :
    0 < pid ∧ (∀ process ∈ processes, process.pid ≠ pid) ∧
      ((∃ spawned, outcome.spawned = some spawned ∧ spawned.pid.1 = pid) ∨
        ∃ forked, outcome.forked = some forked ∧ forked.1 = pid) := by
  rcases started with started | started
  · obtain ⟨spawned, isSpawned, rfl⟩ := Option.map_eq_some_iff.1 started
    obtain ⟨isSpawned, free⟩ := Option.filter_eq_some_iff.1 isSpawned
    refine ⟨spawned.pid.2, ?_, .inl ⟨spawned, isSpawned, rfl⟩⟩
    intro process listed
    exact of_decide_eq_true (List.all_eq_true.1 free process listed)
  · obtain ⟨pid, isForked, rfl⟩ := Option.map_eq_some_iff.1 started
    obtain ⟨isForked, free⟩ := Option.filter_eq_some_iff.1 isForked
    refine ⟨pid.2, ?_, .inr ⟨pid, isForked, rfl⟩⟩
    intro process listed
    exact of_decide_eq_true (List.all_eq_true.1 free process listed)

/-- If the request is one for a command, on a session without a child, then the process numbers
of its outcome are neither in the table of children nor that of the last exit status. -/
def Outcome.Fresh (outcome : Outcome) (number : Nat) (payload : Buffer) (server : Server) : Prop :=
  AsksCommand payload → (server.table.session number).any (·.pid = 0) →
    (∀ spawned, outcome.spawned = some spawned → server.Unused spawned.pid.1) ∧
      ∀ forked, outcome.forked = some forked → server.Unused forked.1

/-- What a request makes of a session, when the system gives no exit status. -/
theorem Identity.Requested.follows {identity : Identity} {payload : Buffer}
    (requested : identity.Requested payload outcome channel) (noExit : outcome.lastexit = none)
    {chansess : ChanSess} (typedata : identity.typedata = some chansess) :
    ∃ chansess', channel.typedata = some chansess' ∧ chansess'.exit = chansess.exit ∧
      (chansess'.pid = chansess.pid ∨ chansess.pid = 0 ∧ AsksCommand payload ∧
        (outcome.spawned.map (·.pid.1) = some chansess'.pid ∨
          outcome.forked.map (·.1) = some chansess'.pid)) := by
  rcases requested.2 with same | ⟨before, after, isBefore, isAfter, follows⟩
  · exact ⟨chansess, same.trans typedata, rfl, .inl rfl⟩
  · cases isBefore.symm.trans typedata
    refine ⟨after, isAfter, ?_, follows.pid⟩
    rcases follows.exit with same | stored
    · exact same
    · rw [noExit] at stored
      cases stored

/-- A number without a session does not get one by a request. -/
theorem Table.Touched.session_of_request {table after : Table} {payload : Buffer}
    (touched : table.Touched number (.recvRequest payload outcome) after)
    (none : table.session number = none) : after.session = table.session := by
  funext other
  by_cases different : other = number
  · rw [different, none]
    cases found' : after.session number with
    | none => rfl
    | some session =>
      obtain ⟨entry', channel', chansess, there', present', typedata', _, rfl⟩ :=
        Table.exists_of_session found'
      obtain ⟨entry, there, _, came⟩ := touched.entry entry' there'
      obtain ⟨channel, present, _, typedata⟩ := came channel' present'
      cases before : channel.typedata with
      | none =>
        rcases typedata with same | ⟨before', _, isBefore, _⟩
        · rw [typedata', show channel.identity.typedata = Option.none from before] at same
          cases same
        · rw [show channel.identity.typedata = Option.none from before] at isBefore
          cases isBefore
      | some chansess =>
        rw [Table.session_of_getElem? there, Entry.session_of_present present before] at none
        cases none
  · rw [Table.session, Table.session, touched.others other different]

theorem ends_serveRequest (opts : Opts) (matched : server.Matched) (number : Nat) (payload : Buffer)
    (fresh : outcome.Fresh number payload server) :
    Ends (fun _ after => after.Matched) (fun _ after => after.Routed)
      (serveRequest opts number payload outcome server) := by
  rw [serveRequest, EStateM.get_bind_apply]
  cases before : server.table.session number with
  | none =>
    apply ends_onTable (ends_forChannel opts matched.sound number rfl)
    · rintro fault table ⟨_, touched⟩
      apply matched.toRouted.ofSessions
      intro other session found
      exact ⟨session, touched.session_of_request before ▸ found, rfl⟩
    · rintro table ⟨sound, touched⟩
      dsimp only
      rw [EStateM.get_bind_apply]
      have kept := matched.sameSessions sound (touched.session_of_request before)
      rw [Table.session_eq_none.1 before]
      cases table.channels[number]? <;> exact kept
  | some session =>
    obtain ⟨entry, channel, chansess, there, present, typedata, isChansess, rfl⟩ :=
      Table.exists_of_session before
    have requested : ∀ slot, slot.Has (channel.identity.Requested payload
        (outcome.given server.processes)) → ∃ chansess',
          (server.table.put number { entry with slot := slot }).Sound ∧
          (server.table.put number { entry with slot := slot }).session =
            Function.update server.table.session number
              (some ⟨entry.address, chansess'.pid, chansess'.exit⟩) ∧
          (server.table.put number { entry with slot := slot }).chansess number =
            some chansess' ∧ chansess'.exit = chansess.exit ∧
          (chansess'.pid = chansess.pid ∨ chansess.pid = 0 ∧ AsksCommand payload ∧
            ((outcome.given server.processes).spawned.map (·.pid.1) = some chansess'.pid ∨
              (outcome.given server.processes).forked.map (·.1) = some chansess'.pid)) := by
      rintro slot ⟨channel', present', asked⟩
      obtain ⟨chansess', typedata', exit, pid⟩ := asked.follows rfl typedata
      refine ⟨chansess', ?_, ?_, ?_, exit, pid⟩
      · apply matched.sound.keep there present present'
        · exact congrArg Identity.index asked.1
        · exact congrArg Identity.connPending asked.1
      · rw [Table.session_put there, Entry.session_of_present present' typedata']
      · rw [Table.chansess, Table.slot, Table.getElem?_put there]
        change slot.channel.bind _ = _
        rw [present']
        exact typedata'
    apply ends_onTable (ends_forChannel_request opts there present payload _)
    · rintro fault _ ⟨slot, has, rfl⟩
      obtain ⟨chansess', _, sessions, _, exit, _⟩ := requested slot has
      apply matched.toRouted.ofSessions
      intro other session found
      rcases update_cases (sessions ▸ found) with ⟨rfl, rfl⟩ | ⟨_, found⟩
      · exact ⟨_, before, exit⟩
      · exact ⟨session, found, rfl⟩
    · rintro _ ⟨slot, has, rfl⟩
      obtain ⟨chansess', sound, sessions, isChansess', exit, pid⟩ := requested slot has
      dsimp only
      rw [EStateM.get_bind_apply, Table.getElem?_put there, isChansess, isChansess']
      dsimp only
      by_cases same : chansess'.pid = chansess.pid
      · rw [if_neg (not_not_intro same)]
        apply matched.sameSessions sound
        rw [sessions, same, exit]
        exact Function.update_eq_self_iff.2 before.symm
      · rw [if_pos same]
        obtain ⟨idle, asks, started⟩ := pid.resolve_left same
        have fresh := fresh asks (by rw [before]; exact decide_eq_true idle)
        obtain ⟨positive, free, given⟩ := given_free started
        have unused : server.Unused chansess'.pid := by
          rcases given with ⟨spawned, isSpawned, isPid⟩ | ⟨forked, isForked, isPid⟩
          · exact isPid ▸ fresh.1 spawned isSpawned
          · exact isPid ▸ fresh.2 forked isForked
        rw [exit] at sessions
        have child := matched.childStarted sound before idle positive unused free sessions
        change Ends _ _ ((if chansess'.term = none then checkLastexit else pure () :
          ServerM Unit) _)
        split
        · exact (congrArg (Ends _ _) (checkLastexit_eq child)).mpr child
        · exact child

/-! ## Opening a session -/

/-- A session starts without a child and without an exit status. -/
theorem ends_recvMsgChannelOpen_session (opts : Opts) (number : Nat)
    (known : ChanType.svrchansess ∈ chantypes opts.isServer)
    (remotechan transwindow transmaxpacket : Nat) (init : InitResult) (slot : Slot) :
    Ends (fun _ after => ∃ channel, after.channel = some channel ∧ channel.index = number ∧
        channel.connPending = false ∧ channel.typedata = some newchansess)
      (fun _ after => after.channel = none)
      (recvMsgChannelOpen opts number .svrchansess remotechan transwindow transmaxpacket init
        slot) := by
  change Ends _ _ ((if _ then _ else _ : ChanM Unit) Slot.free)
  rw [if_neg (not_not_intro known)]
  apply ends_fromResult
  · exact fun _ _ => rfl
  · intro channel made
    rw [noteAllowance_bind]
    obtain ⟨index, pending⟩ := newchannel_identity made
    have type : channel.type = .svrchansess := by
      obtain ⟨writebuf, _, made⟩ := Except.bind_eq_ok.1 made
      cases made
      rfl
    have ready : inithandler channel init =
        ({ channel with typedata := some newchansess }, .ready) := by
      rw [inithandler, type]
    rw [ready]
    apply ends_setChannel
    exact ⟨_, rfl, index, pending, rfl⟩

theorem Table.session_of_isNull {entry : Entry} (found : table.channels[number]? = some entry)
    (null : entry.isNull) :
    table.session number = none := by
  rw [Table.session_of_getElem? found, Entry.session, Option.isNone_iff_eq_none.1 null]
  rfl

theorem Table.session_grow (table : Table) (count : Nat) :
    (table.grow count).session = table.session := by
  funext number
  exact Table.bind_grow rfl table count number

theorem ends_openSession (opts : Opts) (matched : server.Matched)
    (remotechan transwindow transmaxpacket : Nat) (init : InitResult)
    (channelAt connectionAt : Address) :
    Ends (fun _ after => Server.Matched { server with table := after })
      (fun _ after => after.session = server.table.session)
      (openChannel opts .svrchansess remotechan transwindow transmaxpacket init channelAt
        connectionAt server.table) := by
  rw [openChannel]
  split
  · exact matched
  case _ known =>
    apply (ends_newNumber matched.sound).ofNoFailure.bind
    rintro result table ⟨sound, ⟨count, grown⟩, chosen⟩
    have sessions : table.session = server.table.session := by
      rw [grown, Table.session_grow]
    cases result with
    | none => exact matched.sameSessions sound sessions
    | some number =>
      obtain ⟨entry, found, null⟩ := chosen number rfl
      have new : table.session number = none := Table.session_of_isNull found null
      apply (ends_enterChannel found channelAt (ends_recvMsgChannelOpen_session opts number
        (not_not.1 known) remotechan transwindow transmaxpacket init entry.slot) ?_).bind
      · rintro _ _ ⟨slot, ⟨channel, present, index, pending, typedata⟩, rfl⟩
        have entered : (table.enter number slot channelAt).channels[number]? =
            some ⟨slot, malloc table.allocated channelAt, none⟩ := Table.getElem?_put found
        rw [theEntry_bind entered]
        dsimp only
        rw [present]
        dsimp only
        rw [pending, if_neg Bool.false_ne_true]
        apply matched.opened (sound.enterIdle found null present index pending channelAt)
          (sessions ▸ new)
        have put : (table.put number ⟨slot, malloc table.allocated channelAt, none⟩).session =
            Function.update table.session number _ := Table.session_put found
        rw [Entry.session_of_present present typedata, sessions] at put
        exact put
      · intro failure slot gone
        rw [Table.session_put found, ← sessions]
        have none : Entry.session ⟨slot, malloc table.allocated channelAt, none⟩ = none := by
          rw [Entry.session, gone]
          rfl
        rw [none]
        exact Function.update_eq_self_iff.2 new.symm

/-! ## Exits -/

/-- The entry of a channel is the one that is found at its address. -/
theorem Table.Sound.findIdx?_address (sound : table.Sound) {entry : Entry}
    (there : table.channels[number]? = some entry) (live : entry.isNull = false) :
    table.channels.findIdx? (fun other => !other.isNull && some entry.address = some other.address) =
      some number := by
  have owner : ∀ {number : Nat} {entry : Entry}, table.channels[number]? = some entry →
      entry.isNull = false → table.owner number = some ⟨entry.address, entry.connPending⟩ := by
    intro number entry there live
    obtain ⟨channel, present⟩ := Entry.exists_channel live
    exact (Table.owner_of_getElem? there).trans (Entry.owner_of_present present)
  cases search : table.channels.findIdx? fun other =>
      !other.isNull && some entry.address = some other.address with
  | none =>
    have absent := List.findIdx?_eq_none_iff.1 search entry (List.mem_of_getElem? there)
    rw [live, decide_eq_true rfl] at absent
    cases absent
  | some other =>
    obtain ⟨lt, chosen, _⟩ := List.findIdx?_eq_some_iff_getElem.1 search
    rw [Bool.and_eq_true, Bool.not_eq_true'] at chosen
    have same := Option.some_inj.1 (of_decide_eq_true chosen.2)
    have owner' := owner (List.getElem?_eq_getElem lt) chosen.1
    rw [sound.linked.apart other number _ _ owner' (owner there live) same.symm]

/-- The session at an address gets its exit status. -/
theorem ends_storeExit (sound : table.Sound) {session : Session}
    (found : table.session number = some session) (store : ExitInfo → ExitInfo) :
    Ends (fun _ after => after.Sound ∧ after.session =
        Function.update table.session number (some { session with exit := store session.exit }))
      (fun _ _ => False) (storeExit (some session.address) store table) := by
  obtain ⟨entry, channel, chansess, there, present, typedata, _, rfl⟩ :=
    Table.exists_of_session found
  rw [storeExit, EStateM.get_bind_apply,
    sound.findIdx?_address there (Entry.isNull_of_present present)]
  dsimp only
  rw [← bind_pure (onSlot number _)]
  refine ends_onSlot there (?_ : Ends (fun _ (after : Slot) => after.channel = some
    { channel with typedata := some { chansess with exit := store chansess.exit } })
    (fun _ _ => False) _) (fun _ _ never => never) ?_
  · rw [theChannel_bind present, typedata]
    exact rfl
  · intro slot present'
    refine ⟨sound.keep there present present' rfl rfl, ?_⟩
    rw [Table.session_put there, Entry.session_of_present present' rfl]

/-- The entry of a process number is that of the session it was started on. -/
theorem Server.Matched.find?_childpids (matched : server.Matched) {session : Session}
    (found : server.table.session number = some session) (positive : 0 < session.pid) :
    server.childpids.find? (fun child => child.pid = (session.pid : Int)) =
      some ⟨session.pid, some session.address⟩ := by
  have listed := matched.entered number session found positive
  cases search : server.childpids.find? fun child => child.pid = (session.pid : Int) with
  | none => exact absurd (decide_eq_true rfl) (List.find?_eq_none.1 search _ listed)
  | some child =>
    have chosen := List.find?_some search
    have pid : child.pid = session.pid := of_decide_eq_true chosen
    rcases matched.children child (List.mem_of_find?_eq_some search) with
      rfl | ⟨number', session', found', rfl, _⟩
    · change (-1 : Int) = session.pid at pid
      omega
    · have same : session'.pid = session.pid := Int.ofNat_inj.1 pid
      cases matched.distinct number session number' session' found found' same.symm positive
      cases found.symm.trans found'
      rfl

theorem ends_waitChild (matched : server.Matched) {process : Process}
    (listed : process ∈ server.processes) (status : WaitStatus) :
    Ends (fun _ after => after.Matched) (fun _ _ => False) (waitChild process status server) := by
  rw [waitChild, EStateM.get_bind_apply]
  cases mine : process.session with
  | some number =>
    obtain ⟨session, found, pid⟩ := matched.belongs process listed number mine
    have positive : 0 < session.pid := pid ▸ matched.positive process listed
    rw [← pid, matched.find?_childpids found positive, pid]
    dsimp only
    rw [← bind_pure (onTable _)]
    have stored := ends_storeExit matched.sound found (·.store process.pid status)
    refine ends_onTable stored ?_ ?_
    · exact fun _ _ never => never
    · rintro table ⟨sound, sessions⟩
      have waitedFor := matched.waitedFor sound listed mine found status sessions
      rw [mine] at waitedFor
      exact waitedFor
  | none =>
    have absent : server.childpids.find? (fun child => child.pid = (process.pid : Int)) =
        none := by
      rw [List.find?_eq_none]
      intro child entered same
      exact matched.orphan process listed mine child entered (of_decide_eq_true same)
    rw [absent]
    have waitedOrphan := matched.waitedOrphan listed mine status
    rw [mine] at waitedOrphan
    exact waitedOrphan

theorem ends_svrChansessChecksignal (order : List Nat) (matched : server.Matched) :
    Ends (fun _ after => after.Matched) (fun _ _ => False)
      (svrChansessChecksignal order server) := by
  induction order generalizing server with
  | nil => exact matched
  | cons pid rest ih =>
    rw [svrChansessChecksignal, EStateM.get_bind_apply]
    cases search : server.processes.find? (·.pid = pid) with
    | none => exact ih matched
    | some process =>
      dsimp only
      cases process.status with
      | none => exact ih matched
      | some status =>
        have listed := List.mem_of_find?_eq_some search
        exact (ends_waitChild matched listed status).bind fun _ after waited => ih waited

/-! ## Runs -/

/-- The process number of a child that a request may start is neither in the table of children nor that of the
last exit status. -/
def ServerEvent.Fresh : ServerEvent → Server → Prop
  | .request number payload outcome, server => outcome.Fresh number payload server
  | _, _ => True

theorem ends_serverStep (opts : Opts) (event : ServerEvent) (server : Server)
    (fresh : event.Fresh server) (matched : server.Matched) :
    Ends (fun _ after => after.Matched) (fun _ after => after.Routed)
      (serverStep opts event server) := by
  cases event with
  | openSession remotechan transwindow transmaxpacket channelAt =>
    change Ends _ _ (onTable _ server)
    rw [← bind_pure (onTable _)]
    apply ends_onTable (ends_openSession opts matched ..)
    · intro fault table same
      apply matched.toRouted.ofSessions
      intro number session found
      exact ⟨session, same ▸ found, rfl⟩
    · exact fun table opened => opened
  | request number payload outcome => exact ends_serveRequest opts matched number payload fresh
  | forChannel number event =>
    rw [serverStep]
    split
    · exact matched
    case _ quiet => exact ends_serveChannel opts matched number (Bool.eq_false_iff.2 quiet)
  | processEnds pid status => exact matched.ended pid status
  | checksignal order => exact (ends_svrChansessChecksignal order matched).ofNoFailure

end

/-- **Exit status routing.**  If the process numbers of new children are neither in the table
of children nor that of the last exit status, then after any events every session has the
exit status of the child that was started on it, once the server has waited for that child,
and no other; in particular it has none while its child has not been waited for. -/
theorem exitRouting (opts : Opts) (events : List ServerEvent)
    (fresh : AllMeet (serverStep opts) ServerEvent.Fresh events svrChansessinitialise) :
    let server := finalState (runAll (serverStep opts) events svrChansessinitialise)
    (∀ number chansess, server.table.chansess number = some chansess →
      chansess.exit = (server.waited number).getD .unfilled) ∧
    ∀ process ∈ server.processes, ∀ number chansess, process.session = some number →
      server.table.chansess number = some chansess → chansess.exit = .unfilled := by
  intro server
  have ends := ends_runAll _ (ends_serverStep opts) fresh matched_svrChansessinitialise
  have routed : server.Routed := by
    apply Ends.finalState
    exact ends.mono fun _ _ matched => matched.toRouted
  have filled : ∀ number chansess, server.table.chansess number = some chansess →
      chansess.exit = (server.waited number).getD .unfilled := by
    intro number chansess found
    cases session : server.table.session number with
    | none =>
      rw [Table.session_eq_none.1 session] at found
      cases found
    | some entered =>
      obtain ⟨_, _, _, _, _, _, isChansess, rfl⟩ := Table.exists_of_session session
      cases isChansess.symm.trans found
      exact routed.filled number _ session
  refine ⟨filled, ?_⟩
  intro process listed number chansess mine found
  rw [filled number chansess found, routed.running process listed number mine]
  rfl

/-- Two commands one after the other, each on a session of its own. -/
def twoCommands : List ServerEvent :=
  [.openSession 0 100 100 0, .request 0 execRequest execOutcome, .processEnds 7 (.exited 1),
    .checksignal [7], .openSession 1 100 100 1, .request 1 execRequest execOutcome,
    .processEnds 7 (.exited 2), .checksignal [7]]

theorem exitRouting_command :
    let server := finalState (runAll (serverStep plainServer) (twoCommands.take 4)
      svrChansessinitialise)
    (∀ number chansess, server.table.chansess number = some chansess →
      chansess.exit = (server.waited number).getD .unfilled) ∧
    ∀ process ∈ server.processes, ∀ number chansess, process.session = some number →
      server.table.chansess number = some chansess → chansess.exit = .unfilled := by
  apply exitRouting
  refine ⟨trivial, fun opened ran => ⟨?_, fun _ _ => ⟨trivial, fun _ _ => ⟨trivial, fun _ _ =>
    trivial⟩⟩⟩⟩
  cases ran
  refine fun _ _ => ⟨?_, nofun⟩
  intro spawned isSpawned
  cases isSpawned
  exact ⟨by decide, by decide⟩

/-- **The first session stays open, and the second child has the number of the first.**  The
exit status of the second child goes to the first session, and the second gets none. -/
theorem exitRouting_reused :
    let server := finalState (runAll (serverStep plainServer) twoCommands svrChansessinitialise)
    server.waited 0 = some (ExitInfo.unfilled.store 7 (.exited 1)) ∧
    (server.table.chansess 0).map (·.exit) = some (ExitInfo.unfilled.store 7 (.exited 2)) ∧
    server.waited 1 = some (ExitInfo.unfilled.store 7 (.exited 2)) ∧
    (server.table.chansess 1).map (·.exit) = some .unfilled := by
  decide +kernel

end Dropbear.Channels
