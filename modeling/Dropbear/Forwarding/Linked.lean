/-
# Listeners and what they belong to

A listener for a session channel and the channel point to each other: the channel's pointer is
to a listener of its own that is in the table, and every such listener in the table is the one
its channel points to.  So when a channel goes away, so do its listeners, and nothing is left
that would follow a pointer to it.
-/

import Dropbear.Channels.Pending
import Dropbear.Forwarding.Session
import Dropbear.Program.Slots

namespace Dropbear.Forwarding

open Program Channels

/-- The table is in order, and the pointers between listeners and session channels agree. -/
structure Listening.Linked (ses : Listening) : Prop where
  numbered : Numbered Listener.index Listener.address ses.listeners
  owned : ∀ listener kind chansess, some listener ∈ ses.listeners →
    listener.acceptor = Forwarded.acceptor kind chansess →
      kind.pointer (ses.forwarding chansess) = some listener.address
  points : ∀ kind chansess address, Forwarded.pointer kind (ses.forwarding chansess) = some address →
    ∃ listener, some listener ∈ ses.listeners ∧ listener.address = address ∧
      listener.acceptor = kind.acceptor chansess
  /-- A unix socket is known by the path the client asked for. -/
  named : ∀ listener tcpinfo, some listener ∈ ses.listeners →
    listener.acceptor = .streamlocalAcceptor tcpinfo → tcpinfo.requestListenaddr.isSome

/-- The session channels of all listeners are there. -/
def Listening.Alive (ses : Listening) : Prop :=
  ∀ listener kind chansess, some listener ∈ ses.listeners →
    listener.acceptor = Forwarded.acceptor kind chansess → hasSession ses.table chansess

structure Listening.Sound (ses : Listening) : Prop where
  linked : ses.Linked
  alive : ses.Alive

theorem sound_listenersInitialise : listenersInitialise.Sound := by
  have empty : ∀ listener : Listener, some listener ∉ listenersInitialise.listeners := by
    intro listener found
    cases List.mem_singleton.1 found
  refine ⟨⟨⟨?_, ?_⟩, ?_, ?_, ?_⟩, ?_⟩
  · exact fun place listener found => absurd (List.mem_of_getElem? found) (empty listener)
  · exact fun listener _ found => absurd found (empty listener)
  · exact fun listener _ _ found => absurd found (empty listener)
  · rintro (_ | _) chansess address points <;> cases points
  · exact fun listener _ found => absurd found (empty listener)
  · exact fun listener _ _ found => absurd found (empty listener)

namespace Forwarded

theorem acceptor_inj {kind kind' : Forwarded} {chansess chansess' : Address}
    (same : kind.acceptor chansess = kind'.acceptor chansess') :
    kind = kind' ∧ chansess = chansess' := by
  cases kind <;> cases kind' <;> cases same <;> exact ⟨rfl, rfl⟩

@[simp]
theorem pointer_point (kind : Forwarded) (listener : Option Address) (forwarding : ChanSessFwd) :
    kind.pointer (kind.point listener forwarding) = listener := by
  cases kind <;> rfl

theorem pointer_point_of_ne {kind kind' : Forwarded} (different : kind' ≠ kind)
    (listener : Option Address) (forwarding : ChanSessFwd) :
    kind'.pointer (kind.point listener forwarding) = kind'.pointer forwarding := by
  cases kind <;> cases kind' <;> first | rfl | exact absurd rfl different

@[simp]
theorem pointer_off (kind : Forwarded) : kind.pointer .off = none := by
  cases kind <;> rfl

end Forwarded

section

variable {ses after : Listening} {listener : Listener} {address chansess : Address}

/-! ## Pointers -/

theorem pointer_setForwarding (kind kind' : Forwarded) (chansess chansess' : Address)
    (listener : Option Address) :
    kind'.pointer ((ses.setForwarding chansess (kind.point listener)).forwarding chansess') =
      if kind' = kind ∧ chansess' = chansess then listener
      else kind'.pointer (ses.forwarding chansess') := by
  change kind'.pointer (Function.update ses.forwarding chansess _ chansess') = _
  rw [Function.update_apply]
  by_cases sameChansess : chansess' = chansess
  · by_cases sameKind : kind' = kind
    · rw [if_pos sameChansess, if_pos ⟨sameKind, sameChansess⟩, sameKind, Forwarded.pointer_point]
    · rw [if_pos sameChansess, if_neg fun both => sameKind both.1,
        Forwarded.pointer_point_of_ne sameKind, sameChansess]
  · rw [if_neg sameChansess, if_neg fun both => sameChansess both.2]

/-- Only listeners and pointers matter. -/
theorem Listening.Linked.congr (linked : ses.Linked) (listeners : after.listeners = ses.listeners)
    (pointers : ∀ kind chansess, Forwarded.pointer kind (after.forwarding chansess) =
      kind.pointer (ses.forwarding chansess)) : after.Linked := by
  refine ⟨?_, ?_, ?_, ?_⟩
  · rw [listeners]
    exact linked.numbered
  · intro listener kind chansess found belongs
    rw [pointers]
    exact linked.owned listener kind chansess (listeners ▸ found) belongs
  · intro kind chansess address points
    rw [pointers] at points
    rw [listeners]
    exact linked.points kind chansess address points
  · intro listener tcpinfo found
    exact linked.named listener tcpinfo (listeners ▸ found)

theorem Listening.Alive.congr (alive : ses.Alive) (listeners : after.listeners = ses.listeners)
    (sessions : ∀ chansess, hasSession ses.table chansess → hasSession after.table chansess) :
    after.Alive := by
  intro listener kind chansess found belongs
  exact sessions chansess (alive listener kind chansess (listeners ▸ found) belongs)

/-! ## Lookup -/

theorem listenerAt_eq_some (found : ses.listenerAt address = some listener) :
    some listener ∈ ses.listeners ∧ listener.address = address := by
  obtain ⟨entry, listed, picked⟩ := List.exists_of_findSome?_eq_some found
  rw [Option.filter_eq_some_iff, decide_eq_true_eq] at picked
  exact ⟨picked.1 ▸ listed, picked.2⟩

theorem Listening.Linked.listenerAt (linked : ses.Linked) (found : some listener ∈ ses.listeners) :
    ses.listenerAt listener.address = some listener := by
  cases looked : ses.listenerAt listener.address with
  | none =>
    have missed := List.findSome?_eq_none_iff.1 looked (some listener) found
    rw [Option.filter_eq_none_iff] at missed
    exact absurd (decide_eq_true rfl) (missed listener rfl)
  | some other =>
    obtain ⟨found', same⟩ := listenerAt_eq_some looked
    rw [linked.numbered.keyed other listener found' found same]

theorem theListener_of_some (found : ses.listenerAt address = some listener) :
    theListener address ses = .ok listener ses := by
  rw [theListener, EStateM.get_bind_apply, found]
  rfl

theorem theListener_of_none (missing : ses.listenerAt address = none) :
    theListener address ses = .error .dangling ses := by
  rw [theListener, EStateM.get_bind_apply, missing]
  rfl

/-! ## Removal -/

/-- What the cleanup function of a listener does. -/
def Acceptor.unlinks : Acceptor → List Act
  | .streamlocalAcceptor tcpinfo =>
    (tcpinfo.socketPath.map fun path => Act.unlinked (cString path)).toList
  | _ => []

/-- The session without a listener. -/
def Listening.without (ses : Listening) (listener : Listener) : Listening :=
  { ses with
    listeners := ses.listeners.set listener.index none
    acts := ses.acts ++ listener.acceptor.unlinks ++ listener.socks.map .closed }

theorem cleanup_eq (acceptor : Acceptor) (ses : Listening) :
    cleanup acceptor ses = .ok () { ses with acts := ses.acts ++ acceptor.unlinks } := by
  have nothing : (pure () : ListenM Unit) ses = .ok () { ses with acts := ses.acts ++ [] } := by
    rw [List.append_nil]
    rfl
  cases acceptor with
  | x11accept _ => exact nothing
  | agentaccept _ => exact nothing
  | tcpAcceptor _ => exact nothing
  | streamlocalAcceptor tcpinfo =>
    rw [cleanup, Acceptor.unlinks]
    cases tcpinfo.socketPath with
    | none => exact nothing
    | some path => rfl

theorem removeListener_eq (found : ses.listenerAt address = some listener) :
    removeListener address ses = .ok () (ses.without listener) := by
  rw [removeListener, EStateM.bind_of_ok (theListener_of_some found),
    EStateM.bind_of_ok (cleanup_eq listener.acceptor ses)]
  rfl

/-- Another listener that belongs to no session channel is removed. -/
theorem Listening.Linked.without (linked : ses.Linked) (found : some listener ∈ ses.listeners)
    (free : ∀ kind chansess, listener.acceptor ≠ Forwarded.acceptor kind chansess) :
    (ses.without listener).Linked := by
  have mem : ∀ {other}, some other ∈ (ses.without listener).listeners ↔
      some other ∈ ses.listeners ∧ other ≠ listener := linked.numbered.mem_clear_iff found
  refine ⟨linked.numbered.clear found, ?_, ?_, ?_⟩
  · intro other kind chansess left
    exact linked.owned other kind chansess (mem.1 left).1
  · intro kind chansess address points
    obtain ⟨other, found', same, belongs⟩ := linked.points kind chansess address points
    refine ⟨other, mem.2 ⟨found', ?_⟩, same, belongs⟩
    rintro rfl
    exact free kind chansess belongs
  · intro other tcpinfo left
    exact linked.named other tcpinfo (mem.1 left).1

variable {kind : Forwarded}

/-- A listener and the pointer to it are removed. -/
theorem Listening.Linked.unlink (linked : ses.Linked) (found : some listener ∈ ses.listeners)
    (belongs : listener.acceptor = kind.acceptor chansess) :
    ((ses.without listener).setForwarding chansess (kind.point none)).Linked := by
  have mem : ∀ {other}, some other ∈ (ses.without listener).listeners ↔
      some other ∈ ses.listeners ∧ other ≠ listener := linked.numbered.mem_clear_iff found
  have own := linked.owned listener kind chansess found belongs
  refine ⟨linked.numbered.clear found, ?_, ?_, ?_⟩
  · intro other kind' chansess' left belongs'
    obtain ⟨found', different⟩ := mem.1 left
    have own' := linked.owned other kind' chansess' found' belongs'
    rw [pointer_setForwarding, if_neg]
    · exact own'
    · rintro ⟨rfl, rfl⟩
      exact different (linked.numbered.keyed other listener found' found
        (Option.some.inj (own'.symm.trans own)))
  · intro kind' chansess' address points
    rw [pointer_setForwarding] at points
    split at points
    · cases points
    case _ other =>
      obtain ⟨listener', found', same, belongs'⟩ := linked.points kind' chansess' address points
      refine ⟨listener', mem.2 ⟨found', ?_⟩, same, belongs'⟩
      rintro rfl
      exact other (Forwarded.acceptor_inj (belongs'.symm.trans belongs))
  · intro other tcpinfo left
    exact linked.named other tcpinfo (mem.1 left).1

/-- The listeners of a kind for a session channel are gone, and no other ones. -/
structure Listening.Cleaned (kind : Forwarded) (chansess : Address) (ses after : Listening) :
    Prop where
  linked : after.Linked
  gone : kind.pointer (after.forwarding chansess) = none
  others : ∀ kind', kind' ≠ kind → kind'.pointer (ses.forwarding chansess) = none →
    kind'.pointer (after.forwarding chansess) = none
  table : after.table = ses.table
  listeners : ∀ listener, some listener ∈ after.listeners → some listener ∈ ses.listeners

theorem ends_cleanupListener (linked : ses.Linked) (kind : Forwarded) (chansess : Address) :
    Ends (fun _ after => ses.Cleaned kind chansess after) (fun _ _ => False)
      (cleanupListener kind chansess ses) := by
  rw [cleanupListener, EStateM.get_bind_apply]
  cases pointer : kind.pointer (ses.forwarding chansess) with
  | none => exact ⟨linked, pointer, fun _ _ => id, rfl, fun _ => id⟩
  | some address =>
    obtain ⟨listener, found, rfl, belongs⟩ := linked.points kind chansess address pointer
    dsimp only
    rw [EStateM.bind_of_ok (removeListener_eq (linked.listenerAt found))]
    refine ⟨linked.unlink found belongs, ?_, ?_, rfl, ?_⟩
    · rw [pointer_setForwarding, if_pos ⟨rfl, rfl⟩]
    · intro kind' different nothing
      rw [pointer_setForwarding, if_neg fun both => different both.1]
      exact nothing
    · exact fun other left => ((linked.numbered.mem_clear_iff found).1 left).1

/-- A session channel without pointers has no listeners. -/
theorem Listening.Linked.none_belongs (linked : ses.Linked)
    (nothing : kind.pointer (ses.forwarding chansess) = none)
    (found : some listener ∈ ses.listeners) : listener.acceptor ≠ kind.acceptor chansess := by
  intro belongs
  cases nothing.symm.trans (linked.owned listener kind chansess found belongs)

/-- A session channel has lost all its listeners. -/
structure Listening.Abandons (chansess : Address) (ses after : Listening) : Prop where
  linked : after.Linked
  table : after.table = ses.table
  listeners : ∀ listener, some listener ∈ after.listeners → some listener ∈ ses.listeners
  gone : ∀ listener kind, some listener ∈ after.listeners →
    listener.acceptor ≠ Forwarded.acceptor kind chansess

theorem ends_cleanupchansess (linked : ses.Linked) (chansess : Address) :
    Ends (fun _ after => ses.Abandons chansess after) (fun _ _ => False)
      (cleanupchansess chansess ses) := by
  rw [cleanupchansess]
  apply (ends_cleanupListener linked .x11 chansess).bind
  intro _ between first
  apply (ends_cleanupListener first.linked .agent chansess).bind
  intro _ between' second
  have nothing : ∀ kind, Forwarded.pointer kind (between'.forwarding chansess) = none := by
    intro kind
    cases kind with
    | x11 => exact second.others .x11 nofun first.gone
    | agent => exact second.gone
  have linked' : (between'.setForwarding chansess fun _ => .off).Linked := by
    refine second.linked.congr rfl fun kind chansess' => ?_
    change kind.pointer (Function.update between'.forwarding chansess _ chansess') = _
    rw [Function.update_apply]
    split
    case _ same => rw [Forwarded.pointer_off, same, nothing]
    case _ => rfl
  refine ⟨linked', second.table.trans first.table, ?_, ?_⟩
  · exact fun listener left => first.listeners listener (second.listeners listener left)
  · exact fun listener kind left => second.linked.none_belongs (nothing kind) left

theorem ends_cleanupEach (linked : ses.Linked) (gone : List Address) :
    Ends (fun _ after => after.Linked ∧ after.table = ses.table ∧
        (∀ listener, some listener ∈ after.listeners → some listener ∈ ses.listeners) ∧
        ∀ chansess ∈ gone, ∀ listener kind, some listener ∈ after.listeners →
          listener.acceptor ≠ Forwarded.acceptor kind chansess)
      (fun _ _ => False) (cleanupEach gone ses) := by
  induction gone generalizing ses with
  | nil => exact ⟨linked, rfl, fun _ => id, fun _ listed => absurd listed List.not_mem_nil⟩
  | cons chansess rest ih =>
    rw [cleanupEach]
    apply (ends_cleanupchansess linked chansess).bind
    intro _ between abandons
    apply (ih abandons.linked).mono
    rintro _ after ⟨linked', table, listeners, others⟩
    refine ⟨linked', table.trans abandons.table, ?_, ?_⟩
    · exact fun listener left => abandons.listeners listener (listeners listener left)
    · intro other listed listener kind left
      rcases List.mem_cons.1 listed with rfl | listed
      · exact abandons.gone listener kind (listeners listener left)
      · exact others other listed listener kind left

theorem mem_goneSessions {before after : Table} (was : hasSession before chansess)
    (isNot : hasSession after chansess = false) : chansess ∈ goneSessions before after := by
  obtain ⟨entry, listed, fits⟩ := List.any_eq_true.1 was
  rw [Bool.and_eq_true, decide_eq_true_eq] at fits
  refine List.mem_filter.2 ⟨List.mem_map.2 ⟨entry, listed, fits.1⟩, ?_⟩
  rw [was, isNot]
  rfl

/-- A computation that returns leaves listeners and session channels in order. -/
def Keeps {α : Type} (run : ListenM α) : Prop :=
  ∀ ses : Listening, ses.Sound → Ends (fun _ after => after.Sound) (fun _ _ => True) (run ses)

theorem Keeps.bind {α β : Type} {first : ListenM α} {next : α → ListenM β} (start : Keeps first)
    (rest : ∀ value, Keeps (next value)) : Keeps (first >>= next) :=
  fun ses sound => (start ses sound).bind fun value after sound' => rest value after sound'

theorem Keeps.pure {α : Type} (value : α) : Keeps (Pure.pure value) := fun _ sound => sound

theorem Keeps.throw {α : Type} (failure : Fault) : Keeps (MonadExcept.throw failure : ListenM α) :=
  fun _ _ => trivial

theorem keeps_fromExcept {α : Type} (result : Except Exit α) : Keeps (fromExcept result) := by
  intro ses sound
  cases result with
  | ok value => exact sound
  | error failure => trivial

theorem keeps_act (done : Act) : Keeps (act done) := fun _ sound =>
  ⟨sound.linked.congr rfl fun _ _ => rfl, sound.alive.congr rfl fun _ => id⟩

/-- **The channels change**, and listeners are removed with the channels they belong to. -/
theorem keeps_onChannels (run : TableM Unit) : Keeps (onChannels run) := by
  intro ses sound
  change Ends _ _ ((onTable run >>= fun _ => get >>= fun after =>
    cleanupEach (goneSessions ses.table after.table)) ses)
  have ran : Ends (fun _ after => ∃ table, after = { ses with table := table }) (fun _ _ => True)
      (onTable run ses) := by
    rw [onTable]
    split
    · exact ⟨_, rfl⟩
    · trivial
  apply ran.bind
  rintro _ _ ⟨table, rfl⟩
  have linked : Listening.Linked { ses with table := table } :=
    sound.linked.congr rfl fun _ _ => rfl
  apply (ends_cleanupEach linked (goneSessions ses.table table)).imp
  · rintro _ after ⟨linked', sameTable, listeners, gone⟩
    refine ⟨linked', fun listener kind chansess left belongs => ?_⟩
    have was := sound.alive listener kind chansess (listeners listener left) belongs
    rw [sameTable]
    refine eq_true_of_ne_false fun isNot => ?_
    exact gone chansess (mem_goneSessions was isNot) listener kind left belongs
  · exact fun _ _ impossible => impossible.elim

/-! ## New listeners -/

/-- A listener is entered, with memory of its own. -/
structure Listening.Adds (ses : Listening) (listener : Listener) (after : Listening) : Prop where
  numbered : Numbered Listener.index Listener.address ses.listeners →
    Numbered Listener.index Listener.address after.listeners
  mem : ∀ other, some other ∈ after.listeners ↔ other = listener ∨ some other ∈ ses.listeners
  fresh : ∀ other, some other ∈ ses.listeners → other.address ≠ listener.address
  forwarding : after.forwarding = ses.forwarding
  table : after.table = ses.table
  acts : after.acts = ses.acts

/-- A slot is found in the table as it is, or as it is after it has grown. -/
theorem ends_newSlot (ses : Listening) :
    Ends (fun index after => (index = none ∧ after = ses) ∨
        ∃ place count, index = some place ∧
          after = { ses with listeners := ses.listeners ++ List.replicate count none } ∧
          after.listeners[place]? = some none)
      (fun _ _ => False) (newSlot ses) := by
  rw [newSlot, EStateM.get_bind_apply]
  cases search : ses.listeners.findIdx? Option.isNone with
  | some place =>
    obtain ⟨inRange, free, _⟩ := List.findIdx?_eq_some_iff_getElem.1 search
    refine .inr ⟨place, 0, rfl, ?_, ?_⟩
    · rw [List.replicate_zero, List.append_nil]
    · rw [List.getElem?_eq_getElem inRange, Option.isNone_iff_eq_none.1 free]
  | none =>
    dsimp only
    split
    · exact .inl ⟨rfl, rfl⟩
    · refine .inr ⟨ses.listeners.length, listenerExtendSize, rfl, rfl, ?_⟩
      change (ses.listeners ++ List.replicate listenerExtendSize none)[_]? = _
      rw [List.getElem?_append_right (Nat.le_refl _), Nat.sub_self]
      rfl

theorem ends_newListener (ses : Listening) (socks : List Nat) (acceptor : Acceptor)
    (listenerAt : Address) :
    Ends (fun address after =>
        (address = none ∧ after = { ses with acts := ses.acts ++ socks.map .closed }) ∨
        ∃ listener : Listener, address = some listener.address ∧ listener.socks = socks ∧
          listener.acceptor = acceptor ∧ ses.Adds listener after)
      (fun _ _ => False) (newListener socks acceptor listenerAt ses) := by
  rw [newListener]
  apply (ends_newSlot ses).bind
  rintro index middle (⟨rfl, rfl⟩ | ⟨place, count, rfl, rfl, free⟩)
  · exact .inl ⟨rfl, rfl⟩
  · generalize grown : ses.listeners ++ List.replicate count none = slots at free
    have mem : ∀ other, some other ∈ slots ↔ some other ∈ ses.listeners := by
      intro other
      rw [← grown]
      exact mem_grow_iff
    have fresh : ∀ other, some other ∈ slots →
        other.address ≠ malloc (slots.reduceOption.map Listener.address) listenerAt := by
      intro other found same
      refine malloc_notMem (slots.reduceOption.map Listener.address) listenerAt ?_
      rw [← same]
      exact List.mem_map.2 ⟨other, List.reduceOption_mem_iff.2 found, rfl⟩
    let listener : Listener :=
      { address := malloc (slots.reduceOption.map Listener.address) listenerAt
        socks := socks
        index := place
        acceptor := acceptor }
    have free' : slots[listener.index]? = some none := free
    refine .inr ⟨listener, rfl, rfl, rfl, ?_, ?_, ?_, rfl, rfl, rfl⟩
    · intro numbered
      have numbered' : Numbered Listener.index Listener.address slots := grown ▸ numbered.grow count
      exact numbered'.fill free' fresh
    · intro other
      exact (mem_fill_iff free).trans (or_congr_right (mem other))
    · exact fun other found => fresh other ((mem other).2 found)

/-- A listener that belongs to no session channel is added. -/
theorem Listening.Sound.add (sound : ses.Sound) (adds : ses.Adds listener after)
    (free : ∀ kind chansess, listener.acceptor ≠ Forwarded.acceptor kind chansess)
    (named : ∀ tcpinfo, listener.acceptor = .streamlocalAcceptor tcpinfo →
      tcpinfo.requestListenaddr.isSome) : after.Sound := by
  have old : ∀ other kind chansess, some other ∈ after.listeners →
      other.acceptor = Forwarded.acceptor kind chansess → some other ∈ ses.listeners := by
    intro other kind chansess found belongs
    rcases (adds.mem other).1 found with rfl | found
    · exact absurd belongs (free kind chansess)
    · exact found
  refine ⟨⟨adds.numbered sound.linked.numbered, ?_, ?_, ?_⟩, ?_⟩
  · intro other kind chansess found belongs
    rw [adds.forwarding]
    exact sound.linked.owned other kind chansess (old other kind chansess found belongs) belongs
  · intro kind chansess address points
    rw [adds.forwarding] at points
    obtain ⟨other, found, rest⟩ := sound.linked.points kind chansess address points
    exact ⟨other, (adds.mem other).2 (.inr found), rest⟩
  · intro other tcpinfo found
    rcases (adds.mem other).1 found with rfl | found
    · exact named tcpinfo
    · exact sound.linked.named other tcpinfo found
  · intro other kind chansess found belongs
    rw [adds.table]
    exact sound.alive other kind chansess (old other kind chansess found belongs) belongs

/-- A listener is added for a session channel, which points to it. -/
theorem Listening.Sound.link (sound : ses.Sound) (adds : ses.Adds listener after)
    (belongs : listener.acceptor = kind.acceptor chansess)
    (isSession : hasSession ses.table chansess)
    (nothing : kind.pointer (ses.forwarding chansess) = none) :
    (after.setForwarding chansess (kind.point (some listener.address))).Sound := by
  refine ⟨⟨adds.numbered sound.linked.numbered, ?_, ?_, ?_⟩, ?_⟩
  · intro other kind' chansess' found belongs'
    rw [pointer_setForwarding]
    rcases (adds.mem other).1 found with rfl | old
    · rw [if_pos (Forwarded.acceptor_inj (belongs'.symm.trans belongs))]
    · rw [if_neg, adds.forwarding]
      · exact sound.linked.owned other kind' chansess' old belongs'
      · rintro ⟨rfl, rfl⟩
        exact sound.linked.none_belongs nothing old belongs'
  · intro kind' chansess' address points
    rw [pointer_setForwarding, adds.forwarding] at points
    split at points
    case _ same =>
      cases points
      obtain ⟨rfl, rfl⟩ := same
      exact ⟨listener, (adds.mem listener).2 (.inl rfl), rfl, belongs⟩
    case _ =>
      obtain ⟨other, found, rest⟩ := sound.linked.points kind' chansess' address points
      exact ⟨other, (adds.mem other).2 (.inr found), rest⟩
  · intro other tcpinfo found same
    rcases (adds.mem other).1 found with rfl | found
    · cases kind <;> cases belongs.symm.trans same
    · exact sound.linked.named other tcpinfo found same
  · intro other kind' chansess' found belongs'
    change hasSession after.table chansess' = true
    rw [adds.table]
    rcases (adds.mem other).1 found with rfl | found
    · rw [(Forwarded.acceptor_inj (belongs'.symm.trans belongs)).2]
      exact isSession
    · exact sound.alive other kind' chansess' found belongs'

/-! ## Requests -/

theorem setForwarding_bind {β : Type} (chansess : Address) (change : ChanSessFwd → ChanSessFwd)
    (next : Unit → ListenM β) :
    (setForwarding chansess change >>= next) ses = next () (ses.setForwarding chansess change) :=
  rfl

theorem ends_fromExcept {α β : Type} {result : Except Exit α} {next : α → ListenM β}
    {returned : β → Listening → Prop} {failed : Fault → Listening → Prop}
    (fails : ∀ failure, result = .error failure → failed (.exit failure) ses)
    (rest : ∀ value, result = .ok value → Ends returned failed (next value ses)) :
    Ends returned failed ((fromExcept result >>= next) ses) := by
  cases result with
  | ok value => exact rest value rfl
  | error failure => exact fails failure rfl

/-- The session channel can be given a listener. -/
structure Listening.Lacks (kind : Forwarded) (chansess : Address) (ses : Listening) : Prop where
  sound : ses.Sound
  isSession : hasSession ses.table chansess
  nothing : kind.pointer (ses.forwarding chansess) = none

theorem ends_listenFor (lacks : ses.Lacks kind chansess) (outcome : Sockets) :
    Ends (fun _ after => after.Sound) (fun _ _ => True) (listenFor kind chansess outcome ses) := by
  rw [listenFor]
  cases outcome.socket with
  | none => exact lacks.sound
  | unbound fd => exact ((keeps_act _).bind fun _ => Keeps.pure _) ses lacks.sound
  | bound fd => exact ((keeps_act _).bind fun _ => Keeps.pure _) ses lacks.sound
  | listening fd =>
    apply (ends_newListener ses [fd] _ _).ofNoFailure.bind
    rintro _ after (⟨rfl, rfl⟩ | ⟨listener, rfl, _, belongs, adds⟩)
    · refine ((keeps_act _).bind fun _ => Keeps.pure _) _ ⟨?_, ?_⟩
      · refine lacks.sound.linked.congr rfl fun kind' chansess' => ?_
        rw [pointer_setForwarding]
        split
        case _ same =>
          obtain ⟨rfl, rfl⟩ := same
          exact lacks.nothing.symm
        case _ => rfl
      · exact lacks.sound.alive.congr rfl fun _ => id
    · exact lacks.sound.link adds belongs lacks.isSession lacks.nothing

theorem theForwarding_of_session (isSession : hasSession ses.table chansess) :
    theForwarding chansess ses = .ok (ses.forwarding chansess) ses := by
  change (if hasSession ses.table chansess then _ else _ : ListenM ChanSessFwd) ses = _
  rw [if_pos isSession]
  rfl

theorem ends_theForwarding (ses : Listening) (chansess : Address) :
    Ends (fun forwarding after => ses = after ∧ forwarding = ses.forwarding chansess ∧
        hasSession ses.table chansess) (fun _ _ => True) (theForwarding chansess ses) := by
  change Ends _ _ ((if hasSession ses.table chansess then _ else _ : ListenM ChanSessFwd) ses)
  split
  case _ isSession => exact ⟨rfl, rfl, isSession⟩
  case _ => trivial

theorem keeps_x11req (opts : FwdOpts) (chansess : Address) (payload : Buffer) (outcome : Sockets) :
    Keeps (x11req opts chansess payload outcome) := by
  intro ses sound
  rw [x11req]
  apply (ends_theForwarding ses chansess).bind
  rintro _ _ ⟨rfl, rfl, isSession⟩
  split
  · exact sound
  split
  · exact sound
  case _ unset =>
    have nothing : Forwarded.x11.pointer (ses.forwarding chansess) = none :=
      Option.not_isSome_iff_eq_none.1 unset
    apply ends_fromExcept (fun _ _ => trivial)
    rintro ⟨singleconn, payload⟩ _
    -- a flag that is not a pointer
    have lacks : Listening.Lacks .x11 chansess
        (ses.setForwarding chansess ({ · with x11singleconn := singleconn })) := by
      have pointers : ∀ kind chansess', Forwarded.pointer kind
          ((ses.setForwarding chansess ({ · with x11singleconn := singleconn })).forwarding
            chansess') = kind.pointer (ses.forwarding chansess') := by
        intro kind chansess'
        change kind.pointer (Function.update ses.forwarding chansess _ chansess') = _
        rw [Function.update_apply]
        split
        case _ same => cases kind <;> rw [same] <;> rfl
        case _ => rfl
      refine ⟨⟨sound.linked.congr rfl pointers, sound.alive.congr rfl fun _ => id⟩, isSession, ?_⟩
      rw [pointers, nothing]
    dsimp only
    rw [setForwarding_bind]
    apply ends_fromExcept (fun _ _ => trivial)
    rintro ⟨authprot, payload⟩ _
    apply ends_fromExcept (fun _ _ => trivial)
    rintro ⟨authcookie, payload⟩ _
    apply ends_fromExcept (fun _ _ => trivial)
    intro _ _
    split
    · exact lacks.sound
    · exact ends_listenFor lacks outcome

theorem keeps_svrAgentreq (opts : FwdOpts) (chansess : Address) (outcome : Sockets) :
    Keeps (svrAgentreq opts chansess outcome) := by
  intro ses sound
  rw [svrAgentreq]
  apply (ends_theForwarding ses chansess).bind
  rintro _ _ ⟨rfl, rfl, isSession⟩
  split
  · exact sound
  split
  · exact sound
  case _ unset =>
    have nothing : Forwarded.agent.pointer (ses.forwarding chansess) = none :=
      Option.not_isSome_iff_eq_none.1 unset
    exact ends_listenFor ⟨sound, isSession, nothing⟩ outcome

/-! ## Forwards -/

theorem keeps_newListener (socks : List Nat) {acceptor : Acceptor} (listenerAt : Address)
    (free : ∀ kind chansess, acceptor ≠ Forwarded.acceptor kind chansess)
    (named : ∀ tcpinfo, acceptor = .streamlocalAcceptor tcpinfo →
      tcpinfo.requestListenaddr.isSome) : Keeps (newListener socks acceptor listenerAt) := by
  intro ses sound
  apply (ends_newListener ses socks acceptor listenerAt).ofNoFailure.mono
  rintro _ after (⟨_, rfl⟩ | ⟨listener, _, _, rfl, adds⟩)
  · exact ⟨sound.linked.congr rfl fun _ _ => rfl, sound.alive.congr rfl fun _ => id⟩
  · exact sound.add adds free named

theorem keeps_listenTcpfwd (tcpinfo : FwdListener) (outcome : Sockets) :
    Keeps (listenTcpfwd tcpinfo outcome) := by
  rw [listenTcpfwd]
  cases outcome.socks with
  | none => exact Keeps.pure none
  | some socks => exact keeps_newListener socks _ (fun kind _ => by cases kind <;> nofun) nofun

/-- A forward is replaced by another one. -/
theorem Listening.Sound.replace (sound : ses.Sound) (found : some listener ∈ ses.listeners)
    {tcpinfo tcpinfo' : FwdListener} (forwards : listener.acceptor = .tcpAcceptor tcpinfo) :
    Listening.Sound { ses with
      listeners := ses.listeners.set listener.index
        (some { listener with acceptor := .tcpAcceptor tcpinfo' }) } := by
  have mem : ∀ other, some other ∈ ses.listeners.set listener.index
        (some { listener with acceptor := .tcpAcceptor tcpinfo' }) ↔
      other = { listener with acceptor := .tcpAcceptor tcpinfo' } ∨
        some other ∈ ses.listeners ∧ other ≠ listener :=
    fun other => sound.linked.numbered.mem_replace_iff found
  have old : ∀ other kind chansess, some other ∈ ses.listeners.set listener.index
        (some { listener with acceptor := .tcpAcceptor tcpinfo' }) →
      other.acceptor = Forwarded.acceptor kind chansess → some other ∈ ses.listeners := by
    intro other kind chansess found' belongs
    rcases (mem other).1 found' with rfl | ⟨found', _⟩
    · cases kind <;> cases belongs
    · exact found'
  refine ⟨⟨sound.linked.numbered.replace found rfl rfl, ?_, ?_, ?_⟩, ?_⟩
  · intro other kind chansess found' belongs
    exact sound.linked.owned other kind chansess (old other kind chansess found' belongs) belongs
  · intro kind chansess address points
    obtain ⟨other, found', same, belongs⟩ := sound.linked.points kind chansess address points
    refine ⟨other, (mem other).2 (.inr ⟨found', ?_⟩), same, belongs⟩
    rintro rfl
    cases kind <;> cases forwards.symm.trans belongs
  · intro other tcpinfo found' same
    rcases (mem other).1 found' with rfl | ⟨found', _⟩
    · cases same
    · exact sound.linked.named other tcpinfo found' same
  · intro other kind chansess found' belongs
    exact sound.alive other kind chansess (old other kind chansess found' belongs) belongs

theorem keeps_setListenport (address : Address) (port : Nat) :
    Keeps (setListenport address port) := by
  intro ses sound
  rw [setListenport]
  cases looked : ses.listenerAt address with
  | none =>
    rw [EStateM.bind_of_error (theListener_of_none looked)]
    trivial
  | some listener =>
    rw [EStateM.bind_of_ok (theListener_of_some looked)]
    cases forwards : listener.acceptor with
    | tcpAcceptor tcpinfo => exact sound.replace (listenerAt_eq_some looked).1 forwards
    | x11accept _ => exact sound
    | agentaccept _ => exact sound
    | streamlocalAcceptor _ => exact sound

/-- The first listener of a type whose forward matches. -/
def Listening.firstMatch (ses : Listening) (code : Nat) (fits : FwdListener → Bool) :
    Option Listener :=
  ses.listeners.findSome? (Option.filter fun listener =>
    listener.acceptor.type.code = code && listener.acceptor.forward?.any fits)

variable {fits : FwdListener → Bool}

theorem firstMatch_eq_some {code : Nat} (first : ses.firstMatch code fits = some listener) :
    some listener ∈ ses.listeners ∧ listener.acceptor.type.code = code ∧
      ∃ tcpinfo, listener.acceptor.forward? = some tcpinfo ∧ fits tcpinfo := by
  obtain ⟨entry, listed, picked⟩ := List.exists_of_findSome?_eq_some first
  rw [Option.filter_eq_some_iff, Bool.and_eq_true, decide_eq_true_eq, Option.any_eq_true] at picked
  exact ⟨picked.1 ▸ listed, picked.2⟩

theorem getListener_eq (ses : Listening) (code : Nat) (fits : FwdListener → Bool) :
    getListener code (·.forward?.any fits) ses =
      .ok ((ses.firstMatch code fits).map Listener.address) ses := rfl

theorem cancel_of_none {code : Nat} (nothing : ses.firstMatch code fits = none) :
    cancel code fits ses = .ok false ses := by
  rw [cancel, EStateM.bind_of_ok (getListener_eq ses code fits), nothing]
  rfl

theorem cancel_of_some (linked : ses.Linked) {code : Nat}
    (first : ses.firstMatch code fits = some listener) :
    cancel code fits ses = .ok true (ses.without listener) := by
  rw [cancel, EStateM.bind_of_ok (getListener_eq ses code fits), first]
  change (removeListener listener.address >>= fun _ => pure true) ses = _
  rw [EStateM.bind_of_ok (removeListener_eq (linked.listenerAt (firstMatch_eq_some first).1))]
  rfl

/-- A forward is removed. -/
theorem Listening.Sound.without (sound : ses.Sound) (found : some listener ∈ ses.listeners)
    {tcpinfo : FwdListener} (forwards : listener.acceptor.forward? = some tcpinfo) :
    (ses.without listener).Sound := by
  refine ⟨sound.linked.without found fun kind chansess belongs => ?_, ?_⟩
  · rw [belongs] at forwards
    cases kind <;> cases forwards
  · intro other kind chansess left
    exact sound.alive other kind chansess ((sound.linked.numbered.mem_clear_iff found).1 left).1

theorem keeps_cancel (code : Nat) (fits : FwdListener → Bool) : Keeps (cancel code fits) := by
  intro ses sound
  cases first : ses.firstMatch code fits with
  | none =>
    rw [cancel_of_none first]
    exact sound
  | some listener =>
    rw [cancel_of_some sound.linked first]
    obtain ⟨found, _, tcpinfo, forwards, _⟩ := firstMatch_eq_some first
    exact sound.without found forwards

theorem keeps_requestedTcp (opts : FwdOpts) (payload : Buffer) (outcome : Sockets) :
    Keeps (requestedTcp opts payload outcome) := by
  refine (keeps_fromExcept _).bind fun (requestAddr, payload) => ?_
  dsimp only
  split
  · exact Keeps.pure none
  refine (keeps_fromExcept _).bind fun (port, _) => ?_
  dsimp only
  split
  · exact Keeps.pure none
  split
  · exact Keeps.pure none
  split
  · exact Keeps.pure none
  refine (keeps_listenTcpfwd _ outcome).bind fun listener => ?_
  cases listener with
  | none => exact Keeps.pure none
  | some listener => exact (keeps_setListenport listener outcome.port).bind fun _ => Keeps.pure _

theorem keeps_svrRemotetcpreq (opts : FwdOpts) (payload : Buffer) (wantreply : Bool)
    (outcome : Sockets) : Keeps (svrRemotetcpreq opts payload wantreply outcome) := by
  refine (keeps_requestedTcp opts payload outcome).bind fun granted => ?_
  cases wantreply with
  | false => exact Keeps.pure _
  | true =>
    cases granted with
    | none => exact (keeps_act _).bind fun _ => Keeps.pure _
    | some ports => exact (keeps_act _).bind fun _ => Keeps.pure _

theorem keeps_svrCancelremotetcp (opts : FwdOpts) (payload : Buffer) :
    Keeps (svrCancelremotetcp opts payload) := by
  refine (keeps_fromExcept _).bind fun (requestAddr, payload) => ?_
  dsimp only
  split
  · exact Keeps.pure false
  · exact (keeps_fromExcept _).bind fun (port, _) => keeps_cancel _ _

theorem keeps_listenStreamlocal (requestPath : Bytes) (outcome : Sockets) :
    Keeps (listenStreamlocal (remoteStreamlocal requestPath) outcome) := by
  change Keeps (if _ then _ else _)
  split
  · exact Keeps.pure false
  · cases outcome.socket with
    | none => exact Keeps.pure false
    | unbound fd => exact (keeps_act _).bind fun _ => (keeps_act _).bind fun _ => Keeps.pure _
    | bound fd =>
      exact (keeps_act _).bind fun _ => (keeps_act _).bind fun _ => (keeps_act _).bind fun _ =>
        Keeps.pure _
    | listening fd =>
      refine (keeps_act _).bind fun _ => (keeps_newListener [fd] _ ?_ ?_).bind fun listener => ?_
      · exact fun kind _ => by cases kind <;> nofun
      · intro tcpinfo same
        cases same
        rfl
      · cases listener with
        | some _ => exact Keeps.pure true
        | none => exact (keeps_act _).bind fun _ => (keeps_act _).bind fun _ => Keeps.pure _

theorem keeps_freeForward (tcpinfo : Option FwdListener) : Keeps (freeForward tcpinfo) := by
  cases tcpinfo with
  | none => exact Keeps.throw _
  | some _ => exact Keeps.pure _

theorem keeps_svrRemotestreamlocalreq (opts : FwdOpts) (payload : Buffer) (outcome : Sockets) :
    Keeps (svrRemotestreamlocalreq opts payload outcome) := by
  rw [svrRemotestreamlocalreq]
  split
  · exact keeps_freeForward none
  split
  · exact keeps_freeForward none
  refine (keeps_fromExcept _).bind fun (requestPath, _) => ?_
  dsimp only
  split
  · exact keeps_freeForward none
  split
  · exact keeps_freeForward none
  refine (keeps_listenStreamlocal requestPath outcome).bind fun listens => ?_
  cases listens with
  | true => exact Keeps.pure true
  | false => exact keeps_freeForward (some (remoteStreamlocal requestPath))

theorem keeps_svrCancelremotestreamlocal (payload : Buffer) :
    Keeps (svrCancelremotestreamlocal payload) := by
  refine (keeps_fromExcept _).bind fun (socketPath, _) => ?_
  dsimp only
  split
  · exact Keeps.pure false
  split
  · exact Keeps.pure false
  · exact keeps_cancel _ _

theorem keeps_reply (wantreply granted : Bool) : Keeps (reply wantreply granted) := by
  rw [reply]
  split
  · exact keeps_act _
  · exact Keeps.pure ()

theorem keeps_globalRequest (opts : FwdOpts) (reqname : Bytes) (wantreply : Bool)
    (payload : Buffer) (outcome : Sockets) :
    Keeps (globalRequest opts reqname wantreply payload outcome) := by
  rw [globalRequest]
  split
  · exact (keeps_svrRemotetcpreq opts payload wantreply outcome).bind fun _ => Keeps.pure _
  split
  · exact (keeps_svrCancelremotetcp opts payload).bind fun _ => Keeps.pure _
  split
  · exact (keeps_svrRemotestreamlocalreq opts payload outcome).bind fun _ => Keeps.pure _
  split
  · exact (keeps_svrCancelremotestreamlocal payload).bind fun _ => Keeps.pure _
  · exact Keeps.pure _

theorem keeps_svrRecvMsgGlobalRequest (opts : FwdOpts) (payload : Buffer) (outcome : Sockets) :
    Keeps (svrRecvMsgGlobalRequest opts payload outcome) := by
  refine (keeps_fromExcept _).bind fun (reqname, payload) => ?_
  refine (keeps_fromExcept _).bind fun (wantreply, payload) => ?_
  dsimp only
  split
  · exact keeps_reply wantreply false
  split
  · exact keeps_reply wantreply false
  split
  · exact keeps_reply wantreply false
  · exact (keeps_globalRequest opts reqname wantreply payload outcome).bind
      fun (granted, unanswered) => keeps_reply unanswered granted

theorem keeps_openDirect (opts : FwdOpts) (type : ChanType)
    (remotechan transwindow transmaxpacket : UInt32) (allowed : Except Exit (Option Act))
    (channelAt connectionAt : Address) :
    Keeps (openDirect opts type remotechan transwindow transmaxpacket allowed channelAt
      connectionAt) := by
  intro ses sound
  change Ends _ _ ((if ¬ opts.chan.isServer ∨ ¬ hasRoom ses.table then _ else _ : ListenM Unit) ses)
  split
  · exact sound
  · refine ((keeps_fromExcept allowed).bind fun connects => ?_) ses sound
    cases connects with
    | none => exact keeps_onChannels _
    | some connect => exact (keeps_act connect).bind fun _ => keeps_onChannels _

/-- Whatever is done for the session channel of a number. -/
theorem keeps_sessionAt (number : Nat) {serve : Address → ListenM Bool}
    (keeps : ∀ chansess, Keeps (serve chansess)) :
    Keeps (do
      match sessionAt (← get).table number with
      | none => pure ()
      | some chansess => do
        let _ ← serve chansess
        pure ()) := by
  intro ses sound
  rw [EStateM.get_bind_apply]
  cases sessionAt ses.table number with
  | none => exact sound
  | some chansess => exact ((keeps chansess).bind fun _ => Keeps.pure ()) ses sound

end

end Dropbear.Forwarding
