/-
# Going through the listeners

`handle_listeners` looks at a listener again after it has called its acceptor.  That is safe
unless the acceptor has removed the listener, which is what the one for X11 does when it
accepts the connection of a session that is to have only one.  Otherwise every connection that
is accepted gets a channel of its own, or is closed.
-/

import Dropbear.Channels.Discipline
import Dropbear.Channels.Window
import Dropbear.Forwarding.Linked

namespace Dropbear.Forwarding

open Program Channels

/-! ## What becomes of a connection -/

/-- A connection is handed to a channel that was not there before, and nothing else about the
channels changes. -/
structure Hands (fd number : Nat) (before after : Table) : Prop where
  unused : (before.slot number).channel = none
  connected : ∃ channel, (after.slot number).channel = some channel ∧ channel.readfd = .fd fd ∧
    channel.writefd = .fd fd
  others : ∀ other, other ≠ number → after.slot other = before.slot other

/-- Every connection that is accepted is handed to one new channel, or closed. -/
inductive Disposes : Table → List Act → Table → Prop where
  | nil (table : Table) : Disposes table [] table
  | opened {before between after : Table} {fd number : Nat} {rest : List Act} (type : ChanType)
      (data : Bytes) (hands : Hands fd number before between)
      (disposes : Disposes between rest after) :
      Disposes before (.accepted fd :: .opened fd number type data :: rest) after
  | closed {before after : Table} {rest : List Act} (fd : Nat)
      (disposes : Disposes before rest after) :
      Disposes before (.accepted fd :: .closed fd :: rest) after

theorem Disposes.append {before between after : Table} {acts acts' : List Act}
    (first : Disposes before acts between) (second : Disposes between acts' after) :
    Disposes before (acts ++ acts') after := by
  induction first with
  | nil _ => exact second
  | opened type data hands _ ih => exact .opened type data hands (ih second)
  | closed fd _ ih => exact .closed fd (ih second)

/-- The listeners are as they were, no session channel is gone, and every connection has been
disposed of. -/
structure Listening.Passes (ses after : Listening) : Prop where
  listeners : after.listeners = ses.listeners
  forwarding : after.forwarding = ses.forwarding
  sessions : ∀ chansess, hasSession ses.table chansess → hasSession after.table chansess
  disposes : ∃ acts, after.acts = ses.acts ++ acts ∧ Disposes ses.table acts after.table

namespace Listening.Passes

variable {ses between after : Listening}

theorem refl (ses : Listening) : ses.Passes ses :=
  ⟨rfl, rfl, fun _ => id, [], (List.append_nil _).symm, .nil _⟩

theorem trans (first : ses.Passes between) (second : between.Passes after) : ses.Passes after := by
  obtain ⟨acts, same, disposes⟩ := first.disposes
  obtain ⟨acts', same', disposes'⟩ := second.disposes
  refine ⟨second.listeners.trans first.listeners, second.forwarding.trans first.forwarding,
    fun chansess there => second.sessions chansess (first.sessions chansess there), acts ++ acts',
    ?_, disposes.append disposes'⟩
  rw [same', same, List.append_assoc]

theorem sound (passes : ses.Passes after) (sound : ses.Sound) : after.Sound :=
  ⟨sound.linked.congr passes.listeners fun _ _ => by rw [passes.forwarding],
    sound.alive.congr passes.listeners passes.sessions⟩

end Listening.Passes

/-! ## Channels for connections -/

section

variable {opts : Opts} {table : Table} {ses : Listening} {listener : Listener}

theorem slot_grow (table : Table) (count number : Nat) :
    (table.grow count).slot number = table.slot number := by
  rw [Table.slot, Table.slot, Table.grow]
  by_cases inside : number < table.channels.length
  · rw [List.getElem?_append_left inside]
  · have beyond : table.channels.length ≤ number := Nat.le_of_not_lt inside
    rw [List.getElem?_append_right beyond, List.getElem?_eq_none_iff.2 beyond]
    split
    case _ entry found =>
      rw [List.eq_of_mem_replicate (List.mem_of_getElem? found)]
      rfl
    case _ => rfl

theorem slot_enter {number : Nat} {entry : Entry} (found : table.channels[number]? = some entry)
    (slot : Slot) (channelAt : Address) (other : Nat) :
    (table.enter number slot channelAt).slot other =
      if other = number then slot else table.slot other := by
  rw [Table.slot, Table.enter, Table.put]
  split_ifs with same
  · rw [same, List.getElem?_set_self (List.getElem?_eq_some_iff.1 found).1]
  · rw [List.getElem?_set_ne (Ne.symm same)]
    rfl

/-- A channel opened for a connection is connected to it. -/
theorem ends_openInit_slot (accepted : opts.Accepted) (number fd : Nat) (type : ChanType)
    (slot : Slot) :
    Ends (fun _ after => ∃ channel, after.channel = some channel ∧ channel.readfd = .fd fd ∧
        channel.writefd = .fd fd)
      (fun _ _ => False) (Channels.sendMsgChannelOpenInit opts number fd type slot) := by
  have bounded : opts.recvWindow ≤ maxCbufSize := Nat.le_trans accepted.2 (by decide)
  obtain ⟨writebuf, made, _⟩ := exists_cbufNew accepted.1 bounded
  change Ends _ _ ((fromResult (newchannel opts number 0 type 0 0) >>= _ : ChanM Unit) Slot.free)
  rw [newchannel, made]
  exact ⟨_, rfl, rfl, rfl⟩

/-- An entry with a channel is not where there is none, and stays. -/
theorem hasSession_put {number : Nat} {entry entry' : Entry} {chansess : Address}
    (found : table.channels[number]? = some entry) (null : entry.isNull)
    (there : hasSession table chansess) : hasSession (table.put number entry') chansess := by
  obtain ⟨other, listed, fits⟩ := List.any_eq_true.1 there
  obtain ⟨place, found'⟩ := List.mem_iff_getElem?.1 listed
  refine List.any_eq_true.2 ⟨other, List.mem_of_getElem? (i := place) ?_, fits⟩
  change (table.channels.set number entry')[place]? = some other
  rw [List.getElem?_set_ne]
  · exact found'
  · rintro rfl
    cases found.symm.trans found'
    rw [Bool.and_eq_true, Option.isNone_iff_eq_none.1 null] at fits
    cases fits.2

theorem hasSession_grow {chansess : Address} (count : Nat) (there : hasSession table chansess) :
    hasSession (table.grow count) chansess := by
  obtain ⟨entry, listed, fits⟩ := List.any_eq_true.1 there
  exact List.any_eq_true.2 ⟨entry, List.mem_append_left _ listed, fits⟩

theorem ends_sendMsgChannelOpenInit (accepted : opts.Accepted) (table : Table) (fd : Nat)
    (type : ChanType) (channelAt : Address) :
    Ends (fun result after =>
        (∀ chansess, hasSession table chansess → hasSession after chansess) ∧
        match result with
        | none => after = table
        | some number => Hands fd number table after)
      (fun _ _ => False) (sendMsgChannelOpenInit opts fd type channelAt table) := by
  rw [sendMsgChannelOpenInit]
  rcases newNumber_cases table with ran | ⟨number, entry, count, ran, found, null, _⟩
  · rw [EStateM.bind_of_ok ran]
    exact ⟨fun _ => id, rfl⟩
  · rw [EStateM.bind_of_ok ran]
    apply (ends_enterChannel found channelAt (ends_openInit_slot accepted number fd type entry.slot)
      fun _ _ impossible => impossible).bind
    rintro _ _ ⟨slot, connected, rfl⟩
    refine ⟨fun chansess there => ?_, ?_, ?_, ?_⟩
    · exact hasSession_put found null (hasSession_grow count there)
    · rw [← slot_grow table count number, Table.slot, found]
      exact Option.isNone_iff_eq_none.1 null
    · obtain ⟨channel, present, fds⟩ := connected
      refine ⟨channel, ?_, fds⟩
      rw [slot_enter found, if_pos rfl]
      exact present
    · intro other different
      rw [slot_enter found, if_neg different, slot_grow]

/-! ## Acceptors -/

/-- A connection that has been accepted is disposed of. -/
theorem ends_handOver (accepted : opts.Accepted) (ses : Listening) (fd : Nat) (type : ChanType)
    (channelAt : Address) (data : Bytes) :
    Ends (fun _ after => ses.Passes after) (fun _ _ => False)
      (handOver opts fd type channelAt (.ok data)
        { ses with acts := ses.acts ++ [.accepted fd] }) := by
  have opens := ends_sendMsgChannelOpenInit accepted ses.table fd type channelAt
  have append : ∀ done, ses.acts ++ [.accepted fd] ++ [done] = ses.acts ++ [.accepted fd, done] :=
    fun done => by rw [List.append_assoc]; rfl
  have ran : Ends (fun result after => ∃ table,
      after = { ses with table := table, acts := ses.acts ++ [.accepted fd] } ∧
        (∀ chansess, hasSession ses.table chansess → hasSession table chansess) ∧
        match result with
        | none => table = ses.table
        | some number => Hands fd number ses.table table)
      (fun _ _ => False) (onTable (sendMsgChannelOpenInit opts fd type channelAt)
        { ses with acts := ses.acts ++ [.accepted fd] }) := by
    rw [onTable]
    dsimp only
    cases result : sendMsgChannelOpenInit opts fd type channelAt ses.table with
    | ok value table =>
      rw [result] at opens
      exact ⟨table, rfl, opens⟩
    | error failure table =>
      rw [result] at opens
      exact opens
  rw [handOver]
  apply ran.bind
  rintro result _ ⟨table, rfl, sessions, disposed⟩
  cases result with
  | none =>
    refine ⟨rfl, rfl, sessions, [.accepted fd, .closed fd], append _, ?_⟩
    rw [disposed]
    exact .closed fd (.nil _)
  | some number =>
    exact ⟨rfl, rfl, sessions, [.accepted fd, .opened fd number type data], append _,
      .opened type data disposed (.nil _)⟩

theorem act_bind {β : Type} (done : Act) (next : Unit → ListenM β) :
    (act done >>= next) ses = next () { ses with acts := ses.acts ++ [done] } := rfl

/-- The listener is removed by its own acceptor. -/
def Listening.Closes (ses : Listening) (accepted : Accepted) (listener : Listener) : Prop :=
  accepted.fd.isSome ∧ ∃ chansess, listener.acceptor = .x11accept chansess ∧
    (ses.forwarding chansess).x11singleconn

/-- **An acceptor that does not remove its listener** disposes of the connection and leaves
the listeners alone. -/
theorem ends_acceptor (window : opts.Accepted) (sound : ses.Sound)
    (found : some listener ∈ ses.listeners) {accepted : Accepted}
    (stays : ¬ ses.Closes accepted listener) :
    Ends (fun _ after => ses.Passes after) (fun _ _ => False)
      (acceptor opts accepted listener.acceptor ses) := by
  cases connection : accepted.fd with
  | none =>
    cases listener.acceptor <;>
      simp only [acceptor, x11accept, agentaccept, tcpAcceptor, streamlocalAcceptor, connection]
    all_goals exact .refl ses
  | some fd =>
    cases isAcceptor : listener.acceptor with
    | x11accept chansess =>
      have isSession : hasSession ({ ses with acts := ses.acts ++ [.accepted fd] } :
          Listening).table chansess := sound.alive listener .x11 chansess found isAcceptor
      have many : ¬ (ses.forwarding chansess).x11singleconn := fun single =>
        stays ⟨by rw [connection]; rfl, chansess, isAcceptor, single⟩
      simp only [acceptor, x11accept, connection, act_bind]
      rw [EStateM.bind_of_ok (theForwarding_of_session isSession), if_neg many]
      exact ends_handOver window ses fd _ _ _
    | agentaccept chansess =>
      simp only [acceptor, agentaccept, connection, act_bind]
      exact ends_handOver window ses fd _ _ _
    | tcpAcceptor tcpinfo =>
      simp only [acceptor, tcpAcceptor, connection, act_bind]
      cases accepted.name with
      | none =>
        refine ⟨rfl, rfl, fun _ => id, [.accepted fd, .closed fd], ?_, .closed fd (.nil _)⟩
        exact List.append_assoc _ _ _
      | some name => exact ends_handOver window ses fd _ _ _
    | streamlocalAcceptor tcpinfo =>
      obtain ⟨path, requested⟩ :=
        Option.isSome_iff_exists.1 (sound.linked.named listener tcpinfo found isAcceptor)
      simp only [acceptor, streamlocalAcceptor, connection, act_bind, requested]
      exact ends_handOver window ses fd _ _ _

theorem ends_handOver_listeners (ses : Listening) (fd : Nat) (type : ChanType)
    (channelAt : Address) (data : Except Exit Bytes) :
    Ends (fun _ after => after.listeners = ses.listeners) (fun _ _ => True)
      (handOver opts fd type channelAt data ses) := by
  have ran : Ends (fun _ after => after.listeners = ses.listeners) (fun _ _ => True)
      (onTable (sendMsgChannelOpenInit opts fd type channelAt) ses) := by
    rw [onTable]
    split
    · rfl
    · trivial
  rw [handOver]
  apply ran.bind
  intro result between same
  cases result with
  | none => exact same
  | some number =>
    apply ends_fromExcept (fun _ _ => trivial)
    exact fun _ _ => same

/-- **An acceptor that removes its listener** leaves a pointer to nothing. -/
theorem ends_acceptor_of_closes (sound : ses.Sound) (found : some listener ∈ ses.listeners)
    {accepted : Accepted} (closes : ses.Closes accepted listener) :
    Ends (fun _ after => after.listenerAt listener.address = none) (fun _ _ => True)
      (acceptor opts accepted listener.acceptor ses) := by
  obtain ⟨accepts, chansess, isAcceptor, single⟩ := closes
  obtain ⟨fd, connection⟩ := Option.isSome_iff_exists.1 accepts
  have isSession : hasSession ({ ses with acts := ses.acts ++ [.accepted fd] } :
      Listening).table chansess := sound.alive listener .x11 chansess found isAcceptor
  have linked : Listening.Linked { ses with acts := ses.acts ++ [.accepted fd] } :=
    sound.linked.congr rfl fun _ _ => rfl
  rw [isAcceptor]
  simp only [acceptor, x11accept, connection, act_bind]
  rw [EStateM.bind_of_ok (theForwarding_of_session isSession), if_pos single]
  apply (ends_cleanupListener linked .x11 chansess).ofNoFailure.bind
  intro _ between cleaned
  have gone : between.listenerAt listener.address = none := by
    refine Option.eq_none_iff_forall_not_mem.2 fun other looked => ?_
    obtain ⟨left, same⟩ := listenerAt_eq_some looked
    have isListener := sound.linked.numbered.keyed other listener
      (cleaned.listeners other left) found same
    exact cleaned.linked.none_belongs cleaned.gone left (isListener ▸ isAcceptor)
  apply (ends_handOver_listeners between fd _ _ _).mono
  intro _ after same
  rw [Listening.listenerAt, same]
  exact gone

/-! ## The loops -/

section

variable {ready : Nat → Bool} {accepts : Nat → Accepted}

/-- A socket that is ready does not remove its listener. -/
def Listening.StaysAt (ses : Listening) (ready : Nat → Bool) (accepts : Nat → Accepted)
    (listener : Listener) (sock : Nat) : Prop :=
  ready sock → ¬ ses.Closes (accepts sock) listener

variable {after : Listening}

theorem Listening.Passes.staysAt_iff (passes : ses.Passes after) {sock : Nat} :
    after.StaysAt ready accepts listener sock ↔ ses.StaysAt ready accepts listener sock := by
  rw [Listening.StaysAt, Listening.StaysAt, Listening.Closes, Listening.Closes, passes.forwarding]

/-- The number of sockets of a listener that has been removed is read. -/
theorem handleSocks_of_none {address : Address} (missing : ses.listenerAt address = none)
    (socks : List Nat) :
    handleSocks opts ready accepts address socks ses = .error .dangling ses := by
  cases socks with
  | nil => rw [handleSocks, EStateM.bind_of_error (theListener_of_none missing)]
  | cons sock rest => rw [handleSocks, EStateM.bind_of_error (theListener_of_none missing)]

/-- Either no socket that is ready removes the listener, or the program ends. -/
theorem ends_handleSocks (window : opts.Accepted) (sound : ses.Sound)
    (found : some listener ∈ ses.listeners) (socks : List Nat) :
    Ends (fun _ after => ses.Passes after ∧
        ∀ sock ∈ socks, ses.StaysAt ready accepts listener sock)
      (fun _ _ => ∃ sock ∈ socks, ¬ ses.StaysAt ready accepts listener sock)
      (handleSocks opts ready accepts listener.address socks ses) := by
  induction socks generalizing ses with
  | nil =>
    rw [handleSocks, EStateM.bind_of_ok (theListener_of_some (sound.linked.listenerAt found))]
    exact ⟨.refl ses, nofun⟩
  | cons sock rest ih =>
    rw [handleSocks, EStateM.bind_of_ok (theListener_of_some (sound.linked.listenerAt found))]
    by_cases stays : ses.StaysAt ready accepts listener sock
    · have handled : Ends (fun _ after => ses.Passes after) (fun _ _ => False)
          (handleSock opts ready accepts listener sock ses) := by
        rw [handleSock]
        split
        case _ isReady => exact ends_acceptor window sound found (stays isReady)
        case _ => exact .refl ses
      apply handled.ofNoFailure.bind
      intro _ between passes
      apply (ih (passes.sound sound) (passes.listeners ▸ found)).imp
      · rintro _ after ⟨passes', others⟩
        refine ⟨passes.trans passes', List.forall_mem_cons.2 ⟨stays, fun other listed => ?_⟩⟩
        exact passes.staysAt_iff.1 (others other listed)
      · rintro _ _ ⟨other, listed, closes⟩
        exact ⟨other, .tail _ listed, fun stays' => closes (passes.staysAt_iff.2 stays')⟩
    · have closes : ∃ other ∈ sock :: rest, ¬ ses.StaysAt ready accepts listener other :=
        ⟨sock, List.mem_cons_self, stays⟩
      obtain ⟨isReady, removes⟩ := Classical.not_imp.1 stays
      rw [handleSock, if_pos isReady]
      apply ((ends_acceptor_of_closes sound found (not_not.1 removes)).imp (fun _ _ => id)
        fun _ _ _ => closes).bind
      intro _ between missing
      rw [handleSocks_of_none missing]
      exact closes

/-- No socket of a listener removes it. -/
def Listening.Stays (ses : Listening) (ready : Nat → Bool) (accepts : Nat → Accepted)
    (listener : Listener) : Prop :=
  ∀ sock ∈ listener.socks, ses.StaysAt ready accepts listener sock

theorem Listening.Passes.stays_iff (passes : ses.Passes after) :
    after.Stays ready accepts listener ↔ ses.Stays ready accepts listener :=
  forall_congr' fun _ => forall_congr' fun _ => passes.staysAt_iff

/-- The listener of a slot, if there is one, is not removed. -/
def Listening.SlotStays (ses : Listening) (ready : Nat → Bool) (accepts : Nat → Accepted)
    (index : Nat) : Prop :=
  ∀ listener, ses.listeners[index]? = some (some listener) → ses.Stays ready accepts listener

theorem Listening.Passes.slotStays_iff (passes : ses.Passes after) {index : Nat} :
    after.SlotStays ready accepts index ↔ ses.SlotStays ready accepts index := by
  rw [Listening.SlotStays, Listening.SlotStays, passes.listeners]
  exact forall_congr' fun _ => forall_congr' fun _ => passes.stays_iff

theorem ends_handleSlot (window : opts.Accepted) (sound : ses.Sound) (index : Nat) :
    Ends (fun _ after => ses.Passes after ∧ ses.SlotStays ready accepts index)
      (fun _ _ => ¬ ses.SlotStays ready accepts index)
      (handleSlot opts ready accepts index ses) := by
  rw [handleSlot, EStateM.get_bind_apply, Listening.SlotStays]
  cases there : ses.listeners[index]? with
  | none => exact ⟨.refl ses, fun listener found => by cases found⟩
  | some slot =>
    cases slot with
    | none => exact ⟨.refl ses, fun listener found => by cases found⟩
    | some listener =>
      apply (ends_handleSocks window sound (mem_slots_iff.2 ⟨index, there⟩) _).imp
      · rintro _ after ⟨passes, stays⟩
        refine ⟨passes, fun other same => ?_⟩
        cases same
        exact stays
      · rintro _ _ ⟨sock, listed, closes⟩ stays
        exact closes (stays listener rfl sock listed)

theorem ends_handleEach (window : opts.Accepted) (sound : ses.Sound) (indices : List Nat) :
    Ends (fun _ after => ses.Passes after ∧
        ∀ index ∈ indices, ses.SlotStays ready accepts index)
      (fun _ _ => ∃ index ∈ indices, ¬ ses.SlotStays ready accepts index)
      (handleEach opts ready accepts indices ses) := by
  induction indices generalizing ses with
  | nil => exact ⟨.refl ses, nofun⟩
  | cons index rest ih =>
    rw [handleEach]
    apply ((ends_handleSlot window sound index).imp (fun _ _ => id)
      fun _ _ closes => ⟨index, List.mem_cons_self, closes⟩).bind
    rintro _ between ⟨passes, stays⟩
    apply (ih (passes.sound sound)).imp
    · rintro _ after ⟨passes', others⟩
      refine ⟨passes.trans passes', List.forall_mem_cons.2 ⟨stays, fun other listed => ?_⟩⟩
      exact passes.slotStays_iff.1 (others other listed)
    · rintro _ _ ⟨other, listed, closes⟩
      exact ⟨other, .tail _ listed, fun stays' => closes (passes.slotStays_iff.2 stays')⟩

end

end

/-! ## Runs -/

/-- Every listener that is looked at is there, and every connection that is accepted gets one
new channel, or is closed. -/
def FwdEvent.IteratesSafely (opts : FwdOpts) : FwdEvent → Listening → Prop
  | .handleListeners ready accepts, ses =>
    Ends (fun _ after => ∃ acts, after.acts = ses.acts ++ acts ∧
        Disposes ses.table acts after.table)
      (fun _ _ => False) (Forwarding.handleListeners opts.chan ready accepts ses)
  | _, _ => True

/-- No connection is accepted for an X11 listener whose session is to have only one. -/
def FwdEvent.AcceptsMany : FwdEvent → Listening → Prop
  | .handleListeners ready accepts, ses =>
    ∀ listener, some listener ∈ ses.listeners → ∀ chansess,
      listener.acceptor = .x11accept chansess → (ses.forwarding chansess).x11singleconn →
        ∀ sock ∈ listener.socks, ready sock → (accepts sock).fd = none
  | _, _ => True

section

variable {opts : FwdOpts} {ses : Listening} {ready : Nat → Bool} {accepts : Nat → Accepted}

theorem acceptsMany_iff_stays : (FwdEvent.handleListeners ready accepts).AcceptsMany ses ↔
    ∀ listener, some listener ∈ ses.listeners → ses.Stays ready accepts listener := by
  constructor
  · rintro many listener found sock listed isReady ⟨isSome, chansess, isAcceptor, single⟩
    rw [many listener found chansess isAcceptor single sock listed isReady] at isSome
    cases isSome
  · intro stays listener found chansess isAcceptor single sock listed isReady
    refine Option.not_isSome_iff_eq_none.1 fun isSome => ?_
    exact stays listener found sock listed isReady ⟨isSome, chansess, isAcceptor, single⟩

theorem ends_handleListeners (window : opts.chan.Accepted) (sound : ses.Sound) :
    Ends (fun _ after => ses.Passes after ∧ (FwdEvent.handleListeners ready accepts).AcceptsMany ses)
      (fun _ _ => ¬ (FwdEvent.handleListeners ready accepts).AcceptsMany ses)
      (handleListeners opts.chan ready accepts ses) := by
  rw [acceptsMany_iff_stays]
  apply (ends_handleEach window sound _).imp
  · rintro _ after ⟨passes, stays⟩
    refine ⟨passes, fun listener found => ?_⟩
    obtain ⟨index, there⟩ := mem_slots_iff.1 found
    exact stays index (List.mem_range.2 (List.getElem?_eq_some_iff.1 there).1) listener there
  · rintro _ _ ⟨index, _, closes⟩ stays
    exact closes fun listener there => stays listener (mem_slots_iff.2 ⟨index, there⟩)

theorem keeps_handleListeners (window : opts.chan.Accepted) (ready : Nat → Bool)
    (accepts : Nat → Accepted) : Keeps (handleListeners opts.chan ready accepts) :=
  fun _ sound => (ends_handleListeners window sound).imp
    (fun _ _ passes => passes.1.sound sound) fun _ _ _ => trivial

/-- **One event** leaves listeners and session channels in order. -/
theorem keeps_fwdStep (window : opts.chan.Accepted) (event : FwdEvent) :
    Keeps (fwdStep opts event) := by
  cases event with
  | channels event =>
    rw [fwdStep]
    split
    · exact Keeps.pure ()
    · exact keeps_onChannels _
  | openTcpdirect _ _ _ _ _ _ => exact keeps_openDirect _ _ _ _ _ _ _ _
  | openStreamlocal _ _ _ _ _ _ => exact keeps_openDirect _ _ _ _ _ _ _ _
  | x11req number payload outcome =>
    exact keeps_sessionAt number fun chansess => keeps_x11req opts chansess payload outcome
  | agentreq number outcome =>
    exact keeps_sessionAt number fun chansess => keeps_svrAgentreq opts chansess outcome
  | globalRequest payload outcome =>
    rw [fwdStep]
    split
    · exact keeps_svrRecvMsgGlobalRequest opts payload outcome
    · exact Keeps.pure ()
  | localTcp listenaddr listenport remoteaddr remoteport outcome =>
    rw [fwdStep]
    split
    · exact Keeps.pure ()
    · exact ((keeps_listenTcpfwd _ outcome).bind fun _ => Keeps.pure _).bind
        fun _ => Keeps.pure ()
  | handleListeners ready accepts => exact keeps_handleListeners window ready accepts

theorem iteratesSafely_iff (window : opts.chan.Accepted) (sound : ses.Sound) (event : FwdEvent) :
    event.IteratesSafely opts ses ↔ event.AcceptsMany ses := by
  cases event with
  | handleListeners ready accepts =>
    have ends : Ends _ _ (handleListeners opts.chan ready accepts ses) :=
      ends_handleListeners window sound
    rw [FwdEvent.IteratesSafely]
    cases result : handleListeners opts.chan ready accepts ses with
    | ok value after =>
      rw [result] at ends
      exact iff_of_true ends.1.disposes ends.2
    | error failure after =>
      rw [result] at ends
      exact iff_of_false id ends
  | _ => exact Iff.rfl

end

/-- **As long as the program runs, listeners and sessions point at each other**, and at
nothing that is gone. -/
theorem sound_fwdRun (opts : FwdOpts) (arguments : List (Option Nat × Nat))
    (events : List FwdEvent) :
    let opts := { opts with chan := { opts.chan with recvWindow := recvWindowOf arguments } }
    Ends (fun _ after => after.Sound) (fun _ _ => True)
      (runAll (fwdStep opts) events listenersInitialise) := by
  intro opts
  have window : opts.chan.Accepted := recvWindowOf_accepted arguments
  exact ends_runAll (fun _ _ => True) (fun event ses _ => keeps_fwdStep window event ses)
    (allMeet_of_forall (fun _ _ _ => trivial) _) sound_listenersInitialise

/-- **Listeners are gone through safely** in exactly the runs in which no connection is
accepted for an X11 listener whose session is to have only one. -/
theorem allIterateSafely_iff (opts : FwdOpts) (arguments : List (Option Nat × Nat))
    (events : List FwdEvent) :
    let opts := { opts with chan := { opts.chan with recvWindow := recvWindowOf arguments } }
    AllMeet (fwdStep opts) (FwdEvent.IteratesSafely opts) events listenersInitialise ↔
      AllMeet (fwdStep opts) FwdEvent.AcceptsMany events listenersInitialise := by
  intro opts
  have window : opts.chan.Accepted := recvWindowOf_accepted arguments
  have always : AllMeet (fwdStep opts) (fun _ _ => True) events listenersInitialise :=
    allMeet_of_forall (fun _ _ _ => trivial) listenersInitialise
  exact allMeet_congr (fun event ses _ sound => keeps_fwdStep window event ses sound)
    (fun event ses sound => iteratesSafely_iff window sound event) always sound_listenersInitialise

/-- A server that forwards everything. -/
def openServer : FwdOpts where
  chan := { plainServer with recvWindow := recvWindowOf [] }
  keyOptions := none
  noremotefwd := false
  nolocaltcp := false
  listenFwdAll := false
  allowprivport := false
  remoteTcpfwd := true
  remoteStreamfwd := true

/-- The rest of an 'x11-req' request: for a single connection, and with an authentication
protocol, a cookie and a screen. -/
def x11Request : Buffer :=
  .ofBytes ([1] ++ wireString (ascii "p") ++ wireString (ascii "c") ++ be32 0) (by decide)

/-- The socket listens. -/
def x11Sockets : Sockets where
  socket := .listening 5
  socks := none
  port := 6010
  listenerAt := 50

/-- X11 is forwarded for a session, for a single connection. -/
def singleX11 : List FwdEvent :=
  [.channels (.recvOpen .svrchansess 0 100 100 .ready 10 11), .x11req 0 x11Request x11Sockets]

/-- That connection arrives. -/
def x11Connection : FwdEvent :=
  .handleListeners (· = 5) fun _ =>
    { fd := some 6
      name := some (ascii "127.0.0.1", 40000)
      channelAt := 12 }

/-- **The first X11 connection of a session that is to have only one** makes the program look
at a listener that it has removed. -/
theorem iteratesSafely_fails_for_x11 :
    let ses := finalState (runAll (fwdStep openServer) singleX11 listenersInitialise)
    failureOf (runAll (fwdStep openServer) singleX11 listenersInitialise) = none ∧
      failureOf (fwdStep openServer x11Connection ses) = some .dangling ∧
      ¬ x11Connection.IteratesSafely openServer ses := by
  intro ses
  have fails : failureOf (fwdStep openServer x11Connection ses) = some .dangling := by
    decide +kernel
  refine ⟨by decide +kernel, fails, fun safely => ?_⟩
  clear_value ses
  rw [x11Connection, FwdEvent.IteratesSafely] at safely
  rw [x11Connection, fwdStep] at fails
  cases result : handleListeners openServer.chan _ _ ses with
  | ok value after =>
    rw [result] at fails
    cases fails
  | error failure after =>
    rw [result] at safely
    exact safely

end Dropbear.Forwarding
