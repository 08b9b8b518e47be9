/-
# Channel numbers and pending connections

Every channel is entered under its own number, and the channels with a pending
connection and the connections that call back to a channel point to each other.  So a
connection that completes after its channel is gone calls back to nothing.
-/

import Dropbear.Channels.Identity
import Dropbear.Program.Links

namespace Dropbear.Channels

open Program

/-! ## The invariant -/

/-- The channel at an address, with its pointer to a connection. -/
def Entry.owner (entry : Entry) : Option (Owner Address Address) :=
  match entry.slot.channel with
  | some _ => some ⟨entry.address, entry.connPending⟩
  | none => none

def Table.owner (table : Table) (number : Nat) : Option (Owner Address Address) :=
  table.channels[number]?.bind Entry.owner

/-- The channel that is called back. -/
def ConnectCallback.channel : ConnectCallback → Option Address
  | .channelConnectDone channel => some channel
  | _ => none

def Connection.item (connection : Connection) : Item Address Address where
  address := connection.address
  back := connection.cb.channel

/-- The channel under a number has this number, and a pointer to a connection exactly if
one is pending. -/
def Entry.Proper (number : Nat) (entry : Entry) : Prop :=
  ∀ channel, entry.slot.channel = some channel →
    channel.index = number ∧ channel.connPending = entry.connPending.isSome

structure Table.Sound (table : Table) : Prop where
  entries : ∀ (number : Nat) (entry : Entry), table.channels[number]? = some entry → entry.Proper number
  counted : table.chancount = table.channels.countP (!·.isNull)
  size : table.channels.length < maxChannels + chanExtendSize
  linked : Linked table.owner (table.connPending.map Connection.item)

/-! ## Entries -/

variable {slot : Slot} {event : Event} {channel : Channel} {address : Address}

section

variable {table : Table} {number : Nat} {entry entry' : Entry}

theorem Table.channel_slot (table : Table) (number : Nat) :
    (table.slot number).channel = table.channels[number]?.bind (·.slot.channel) := by
  rw [Table.slot]
  cases table.channels[number]? with
  | none => rfl
  | some entry => rfl

theorem Entry.owner_of_isNull (null : entry.isNull) : entry.owner = none := by
  rw [Entry.owner, Option.isNone_iff_eq_none.1 null]

theorem Entry.owner_of_present (present : entry.slot.channel = some channel) :
    entry.owner = some ⟨entry.address, entry.connPending⟩ := by
  rw [Entry.owner, present]

theorem Entry.isNull_of_present (present : entry.slot.channel = some channel) :
    entry.isNull = false := by
  rw [Entry.isNull, present]
  rfl

theorem Entry.exists_channel (live : entry.isNull = false) :
    ∃ channel, entry.slot.channel = some channel :=
  Option.isSome_iff_exists.1 (Option.isNone_eq_false_iff.1 live)

theorem Entry.proper_of_isNull (null : entry.isNull) : entry.Proper number := by
  intro channel present
  rw [Option.isNone_iff_eq_none.1 null] at present
  cases present

theorem Table.owner_put (lt : number < table.channels.length) :
    (table.put number entry).owner = Function.update table.owner number entry.owner := by
  funext other
  rw [Function.update_apply, Table.owner, Table.put, List.getElem?_set]
  by_cases same : number = other
  · rw [if_pos same, if_pos lt, if_pos same.symm]
    rfl
  · rw [if_neg same, if_neg (Ne.symm same)]
    rfl

theorem Table.owner_of_getElem? (found : table.channels[number]? = some entry) :
    table.owner number = entry.owner := by
  rw [Table.owner, found]
  rfl

theorem sound_chaninitialise : chaninitialise.Sound := by
  have nothing : ∀ (number : Nat) (entry : Entry), chaninitialise.channels[number]? = some entry →
      entry.isNull := by
    intro number entry found
    cases List.mem_singleton.1 (List.mem_of_getElem? found)
    rfl
  have owner : chaninitialise.owner = fun _ => none := by
    funext number
    cases found : chaninitialise.channels[number]? with
    | none => rw [Table.owner, found]; rfl
    | some entry =>
      rw [Table.owner_of_getElem? found]
      exact Entry.owner_of_isNull (nothing number entry found)
  refine ⟨?_, rfl, by decide, ?_⟩
  · intro number entry found
    exact Entry.proper_of_isNull (nothing number entry found)
  · rw [owner]
    exact Linked.empty

/-- The channels after an entry is replaced. -/
theorem countP_put (found : table.channels[number]? = some entry) :
    (table.put number entry').channels.countP (!·.isNull) =
      (table.channels.countP (!·.isNull) - (!entry.isNull).toNat) + (!entry'.isNull).toNat := by
  obtain ⟨lt, found⟩ := List.getElem?_eq_some_iff.1 found
  rw [Table.put, List.countP_set lt, found]
  cases entry.isNull <;> cases entry'.isNull <;> rfl

/-- An entry is replaced, and the connections change with it. -/
theorem Table.Sound.put (sound : table.Sound) (found : table.channels[number]? = some entry)
    (proper : entry'.Proper number) {chancount : Nat} {connPending : List Connection}
    (counted : chancount = (table.chancount - (!entry.isNull).toNat) + (!entry'.isNull).toNat)
    (linked : Linked (Function.update table.owner number entry'.owner)
      (connPending.map Connection.item)) :
    Table.Sound
      { table.put number entry' with
        chancount := chancount
        connPending := connPending } := by
  have lt := (List.getElem?_eq_some_iff.1 found).1
  refine ⟨?_, ?_, ?_, ?_⟩
  · intro other entry'' found''
    change (table.channels.set number entry')[other]? = some entry'' at found''
    rw [List.getElem?_set] at found''
    split at found''
    case _ same =>
      cases same
      cases found''
      exact proper
    case _ => exact sound.entries other entry'' found''
  · change chancount = (table.put number entry').channels.countP _
    rw [counted, countP_put found, sound.counted]
  · change (table.channels.set number entry').length < _
    rw [List.length_set]
    exact sound.size
  · change Linked (table.put number entry').owner _
    rw [Table.owner_put lt]
    exact linked

theorem Table.Sound.one_le_chancount (sound : table.Sound)
    (found : table.channels[number]? = some entry) (live : entry.isNull = false) :
    1 ≤ table.chancount := by
  rw [sound.counted]
  apply List.countP_pos_iff.2
  refine ⟨entry, List.mem_of_getElem? found, ?_⟩
  rw [live]
  rfl

/-- Nothing changes in what the entry owns. -/
theorem Table.Sound.replace (sound : table.Sound) (found : table.channels[number]? = some entry)
    (proper : entry'.Proper number) (owner : entry'.owner = entry.owner)
    (null : entry'.isNull = entry.isNull) : (table.put number entry').Sound := by
  apply sound.put found proper
  · rw [null]
    cases isNull : entry.isNull with
    | true => rfl
    | false => exact (Nat.sub_add_cancel (sound.one_le_chancount found isNull)).symm
  · rw [owner, ← Table.owner_of_getElem? found, Function.update_eq_self]
    exact sound.linked

theorem Table.put_put (entry₁ entry₂ : Entry) :
    (table.put number entry₁).put number entry₂ = table.put number entry₂ := by
  rw [Table.put, Table.put, List.set_set]
  rfl

theorem Table.getElem?_put (found : table.channels[number]? = some entry) :
    (table.put number entry').channels[number]? = some entry' := by
  rw [Table.put, List.getElem?_set, if_pos rfl, if_pos (List.getElem?_eq_some_iff.1 found).1]

variable {α : Type}

theorem theEntry_bind (found : table.channels[number]? = some entry) (next : Entry → TableM α) :
    (theEntry number >>= next) table = next entry table := by
  have got : theEntry number table = .ok entry table := by
    rw [theEntry, EStateM.get_bind_apply, found]
    rfl
  exact EStateM.bind_of_ok got next

/-- Something is done to the channel of an entry, and the program goes on with the new
entry. -/
theorem ends_onSlot {run : ChanM Unit} {next : Unit → TableM α} {kept failing : Slot → Prop}
    {returned : α → Table → Prop} {failed : Fault → Table → Prop}
    (found : table.channels[number]? = some entry)
    (ends : Ends (fun _ => kept) (fun _ => failing) (run entry.slot))
    (fails : ∀ failure slot, failing slot →
      failed (.exit failure) (table.put number { entry with slot := slot }))
    (rest : ∀ slot, kept slot →
      Ends returned failed (next () (table.put number { entry with slot := slot }))) :
    Ends returned failed ((onSlot number run >>= next) table) := by
  cases ran : run entry.slot with
  | ok value slot =>
    have done : onSlot number run table =
        .ok () (table.put number { entry with slot := slot }) := by
      rw [onSlot, theEntry_bind found, ran]
      rfl
    rw [ran] at ends
    rw [EStateM.bind_of_ok done]
    exact rest slot ends
  | error failure slot =>
    have done : onSlot number run table =
        .error (.exit failure) (table.put number { entry with slot := slot }) := by
      rw [onSlot, theEntry_bind found, ran]
      rfl
    rw [ran] at ends
    rw [EStateM.bind_of_error done]
    exact fails failure slot ends

/-! ## Removal -/

/-- The connections after a channel with this pointer is gone. -/
def cancelled (pointer : Option Address) (connPending : List Connection) : List Connection :=
  connPending.map fun connection =>
    if pointer = some connection.address then { connection with cb := .cancelCallback }
    else connection

theorem cancelled_none (connPending : List Connection) :
    cancelled none connPending = connPending := by
  rw [cancelled]
  exact List.map_id' connPending

theorem map_item_cancelled (pointer : Option Address) (connPending : List Connection) :
    (cancelled pointer connPending).map Connection.item =
      (connPending.map Connection.item).map fun item =>
        if pointer = some item.address then { item with back := none } else item := by
  rw [cancelled, List.map_map, List.map_map]
  apply List.map_congr_left
  intro connection _
  dsimp only [Function.comp]
  by_cases mine : pointer = some connection.address
  · rw [if_pos mine, if_pos (show pointer = some connection.item.address from mine)]
    rfl
  · rw [if_neg mine, if_neg (show ¬ pointer = some connection.item.address from mine)]

/-- A channel that is gone is forgotten.  Its pointer leads to a connection. -/
theorem forgetChannel_eq (found : table.channels[number]? = some entry)
    (owned : ∀ address, entry.connPending = some address →
      ∃ connection ∈ table.connPending, connection.address = address) :
    forgetChannel number table = .ok ()
      { table.put number { entry with connPending := none } with
        chancount := table.chancount - 1
        connPending := cancelled entry.connPending table.connPending } := by
  rw [forgetChannel, theEntry_bind found]
  cases points : entry.connPending with
  | none =>
    rw [cancelled_none]
    rfl
  | some address =>
    obtain ⟨connection, listed, address_eq⟩ := owned address points
    have there : table.connPending.any (fun connection => connection.address = address) :=
      List.any_eq_true.2 ⟨connection, listed, decide_eq_true address_eq⟩
    have cancels : cancelConnect address table = .ok ()
        { table with connPending := cancelled (some address) table.connPending } := by
      have same : (table.setConnection address ({ · with cb := .cancelCallback })) =
          { table with connPending := cancelled (some address) table.connPending } := by
        rw [Table.setConnection, cancelled]
        congr 1
        apply List.map_congr_left
        intro connection _
        simp only [Option.some_inj, eq_comm]
      change (if table.connPending.any _ then _ else _ : TableM Unit) table = _
      rw [if_pos there, same]
      rfl
    dsimp only
    rw [EStateM.bind_of_ok cancels]
    rfl

/-- **Removing a channel cancels its connection.** -/
theorem Table.Sound.remove (sound : table.Sound) (found : table.channels[number]? = some entry)
    (live : entry.isNull = false) (gone : slot.channel = none) :
    Ends (fun _ after => after.Sound ∧
        after.channels = (table.put number ⟨slot, entry.address, none⟩).channels ∧
        after.connPending = cancelled entry.connPending table.connPending) (fun _ _ => False)
      (forgetChannel number (table.put number { entry with slot := slot })) := by
  obtain ⟨channel, present⟩ := Entry.exists_channel live
  have owner := (Table.owner_of_getElem? found).trans (Entry.owner_of_present present)
  rw [forgetChannel_eq (Table.getElem?_put found)]
  · have same := @Table.put_put table number { entry with slot := slot }
      { entry with slot := slot, connPending := none }
    have null : Entry.isNull { entry with slot := slot, connPending := none } :=
      Option.isNone_iff_eq_none.2 gone
    refine ⟨?_, ?_, rfl⟩
    · change Table.Sound { (table.put number _).put number _ with chancount := _, connPending := _ }
      rw [same]
      apply sound.put found (Entry.proper_of_isNull null)
      · rw [live, null]
        rfl
      · rw [Entry.owner_of_isNull null, map_item_cancelled]
        exact sound.linked.drop owner
    · change ((table.put number _).put number _).channels = _
      rw [same]
  · intro address points
    have item := sound.linked.owned number _ address owner points
    obtain ⟨connection, listed, same⟩ := List.mem_map.1 item
    exact ⟨connection, listed, congrArg Item.address same⟩

/-- Steps that end the program do so without following a pointer to nothing. -/
def Safe (fault : Fault) (after : Table) : Prop := fault ≠ .dangling ∧ after.Sound

theorem Table.Sound.exits (sound : table.Sound) (failure : Exit) : Safe (.exit failure) table :=
  ⟨fun same => (by cases same), sound⟩

/-! ## Events for a channel -/

/-- Without a channel nothing happens to the number. -/
theorem step_of_absent (opts : Opts) (running : event.opens = false)
    (absent : slot.channel = none) :
    Ends (fun _ after => after.channel = none) (fun _ after => after.channel = none)
      (step opts number event slot) := by
  have message : ∀ kind (next : Channel → ChanM Unit),
      Ends (fun _ after => after.channel = none) (fun _ after => after.channel = none)
        ((getchannelMsg kind >>= next) slot) := by
    intro kind next
    apply ends_getchannelMsg (fun _ => absent)
    intro channel present
    rw [absent] at present
    cases present
  have nothing : ∀ act : Channel → ChanM Unit,
      Ends (fun _ after => after.channel = none) (fun _ after => after.channel = none)
        (onChannel act slot) := by
    intro act
    rw [onChannel_of_absent absent]
    exact absent
  cases event with
  | recvOpen => cases running
  | openInit => cases running
  | connectDone => cases running
  | recvExtendedData payload result =>
    rw [step]
    split
    · exact absent
    · exact message _ _
  | channelio => exact nothing _
  | childExit => exact nothing _
  | winchange => exact nothing _
  | keepalive => exact nothing _
  | _ => exact message _ _

theorem Event.MayLeave.kept {identity : Identity} (may : event.MayLeave identity channel) :
    channel.index = identity.index ∧ channel.connPending = identity.connPending := by
  have same : channel.identity = { identity with typedata := channel.typedata } := by
    cases event with
    | recvRequest => exact may.1
    | childExit => exact may
    | _ =>
      have same : channel.identity = identity := may
      rw [← same]
      rfl
  exact ⟨congrArg Identity.index same, congrArg Identity.connPending same⟩

/-- A channel with the same number, and with a connection pending exactly if there was
one. -/
theorem Table.Sound.keep (sound : table.Sound) (found : table.channels[number]? = some entry)
    {channel' : Channel} (present : entry.slot.channel = some channel)
    (present' : slot.channel = some channel') (index : channel'.index = channel.index)
    (pending : channel'.connPending = channel.connPending) :
    (table.put number { entry with slot := slot }).Sound := by
  apply sound.replace found
  · intro other present''
    cases present'.symm.trans present''
    rw [index, pending]
    exact sound.entries number entry found channel present
  · rw [Entry.owner_of_present present, Entry.owner_of_present present']
  · rw [Entry.isNull_of_present present, Entry.isNull_of_present present']

theorem Table.Sound.keepNull (sound : table.Sound) (found : table.channels[number]? = some entry)
    (null : entry.isNull) (null' : entry'.isNull) : (table.put number entry').Sound := by
  apply sound.replace found (Entry.proper_of_isNull null')
  · rw [Entry.owner_of_isNull null, Entry.owner_of_isNull null']
  · rw [null, null']

/-- What an event for a number makes of the table: the other numbers are as they were, and a
channel that is there has been there. -/
structure Table.Touched (table : Table) (number : Nat) (event : Event) (after : Table) : Prop where
  others : ∀ other, other ≠ number → after.channels[other]? = table.channels[other]?
  entry : ∀ entry', after.channels[number]? = some entry' →
    ∃ entry, table.channels[number]? = some entry ∧ entry'.address = entry.address ∧
      ∀ channel', entry'.slot.channel = some channel' →
        ∃ channel, entry.slot.channel = some channel ∧ event.MayLeave channel.identity channel'

theorem Table.touched_of_absent (absent : table.channels[number]? = none) :
    table.Touched number event table where
  others _ _ := rfl
  entry entry' found := by
    rw [absent] at found
    cases found

theorem Table.touched_put (found : table.channels[number]? = some entry)
    (kept : ∀ channel', slot.channel = some channel' →
      ∃ channel, entry.slot.channel = some channel ∧ event.MayLeave channel.identity channel')
    {connPending : Option Address} {after : Table}
    (channels : after.channels = (table.put number ⟨slot, entry.address, connPending⟩).channels) :
    table.Touched number event after where
  others other different := by
    rw [channels, Table.put, List.getElem?_set, if_neg (Ne.symm different)]
  entry entry'' found'' := by
    rw [channels, Table.getElem?_put found] at found''
    cases found''
    exact ⟨entry, found, rfl, kept⟩

theorem ends_forChannel (opts : Opts) (sound : table.Sound) (number : Nat)
    (running : event.opens = false) :
    Ends (fun _ after => after.Sound ∧ table.Touched number event after)
      (fun fault after => Safe fault after ∧ table.Touched number event after)
      (forChannel opts number event table) := by
  rw [forChannel, EStateM.get_bind_apply]
  cases found : table.channels[number]? with
  | none =>
    dsimp only
    cases step opts number event .free with
    | ok => exact ⟨sound, Table.touched_of_absent found⟩
    | error failure slot => exact ⟨sound.exits failure, Table.touched_of_absent found⟩
  | some entry =>
    have goes : ∀ {slot : Slot} {connPending : Option Address} {after : Table},
        slot.channel = none →
        after.channels = (table.put number ⟨slot, entry.address, connPending⟩).channels →
        table.Touched number event after := by
      intro slot connPending after gone channels
      apply Table.touched_put found _ channels
      intro channel' present'
      rw [gone] at present'
      cases present'
    dsimp only
    cases null : entry.isNull with
    | true =>
      have absent := Option.isNone_iff_eq_none.1 null
      have kept : ∀ slot : Slot, slot.channel = none →
          (table.put number { entry with slot := slot }).Sound :=
        fun slot gone => sound.keepNull found null (Option.isNone_iff_eq_none.2 gone)
      apply ends_onSlot found (step_of_absent opts running absent)
      · exact fun failure slot gone => ⟨(kept slot gone).exits failure, goes gone rfl⟩
      · intro slot gone
        rw [theEntry_bind (Table.getElem?_put found)]
        exact ⟨kept slot gone, goes gone rfl⟩
    | false =>
      obtain ⟨channel, present⟩ := Entry.exists_channel null
      have kept : ∀ slot : Slot, slot.Has (event.MayLeave channel.identity) →
          (table.put number { entry with slot := slot }).Sound ∧
            table.Touched number event (table.put number { entry with slot := slot }) := by
        rintro slot ⟨channel', present', may⟩
        refine ⟨sound.keep found present present' may.kept.1 may.kept.2, ?_⟩
        refine Table.touched_put found ?_ rfl
        intro channel'' present''
        cases present'.symm.trans present''
        exact ⟨channel, present, may⟩
      apply ends_onSlot found (ends_step_identity opts number running present)
      · intro failure slot has
        obtain ⟨sound', touched⟩ := kept slot has
        exact ⟨sound'.exits failure, touched⟩
      · intro slot outcome
        rw [theEntry_bind (Table.getElem?_put found)]
        rcases outcome with gone | has
        · rw [if_pos]
          · apply (sound.remove found null gone).ofNoFailure.mono
            exact fun _ _ removed => ⟨removed.1, goes gone removed.2.1⟩
          · rw [Entry.isNull, gone]
            rfl
        · have kept := kept slot has
          obtain ⟨channel', present', _⟩ := has
          rw [@Entry.isNull_of_present _ { entry with slot := slot } present']
          exact kept

/-! ## Opening -/

theorem malloc_notMem (allocated : List Address) (wanted : Address) :
    malloc allocated wanted ∉ allocated := by
  rw [malloc]
  split
  · intro listed
    have le : ∀ (values : List Nat) value, value ∈ values → value ≤ values.foldr max 0 := by
      intro values value listed
      induction values with
      | nil => cases listed
      | cons first rest ih =>
        rcases List.mem_cons.1 listed with rfl | listed
        · exact Nat.le_max_left _ _
        · exact Nat.le_trans (ih listed) (Nat.le_max_right _ _)
    exact absurd (le _ _ listed) (Nat.not_succ_le_self _)
  case _ unused => exact unused

/-- New memory is apart from the channels. -/
theorem Table.address_ne_malloc (wanted : Address) {other : Nat} {owner : Owner Address Address}
    (found : table.owner other = some owner) :
    owner.address ≠ malloc table.allocated wanted := by
  intro same
  apply malloc_notMem table.allocated wanted
  rw [← same]
  apply List.mem_append_left
  obtain ⟨entry, there, owns⟩ := Option.bind_eq_some_iff.1 found
  have live : entry.isNull = false := by
    cases null : entry.isNull with
    | false => rfl
    | true =>
      rw [Entry.owner_of_isNull null] at owns
      cases owns
  refine List.mem_map.2 ⟨entry, List.mem_filter.2 ⟨List.mem_of_getElem? there, ?_⟩, ?_⟩
  · rw [live]
    rfl
  · rw [Entry.owner] at owns
    split at owns
    · cases owns
      rfl
    · cases owns

/-- New memory is apart from the connections. -/
theorem Table.connection_ne_malloc (wanted : Address) {item : Item Address Address}
    (listed : item ∈ table.connPending.map Connection.item) :
    item.address ≠ malloc table.allocated wanted := by
  intro same
  apply malloc_notMem table.allocated wanted
  rw [← same]
  apply List.mem_append_right
  obtain ⟨connection, there, rfl⟩ := List.mem_map.1 listed
  exact List.mem_map.2 ⟨connection, there, rfl⟩

/-- More numbers, without channels. -/
def Table.grow (table : Table) (count : Nat) : Table :=
  { table with channels := table.channels ++ List.replicate count .null }

/-- Nothing that an entry without a channel does not have is there under the new numbers. -/
theorem Table.bind_grow {part : Entry → Option α} (nothing : part .null = none) (table : Table)
    (count other : Nat) :
    (table.grow count).channels[other]?.bind part = table.channels[other]?.bind part := by
  rw [Table.grow, List.getElem?_append]
  split
  · rfl
  case _ beyond =>
    rw [List.getElem?_eq_none_iff.2 (Nat.le_of_not_lt beyond), List.getElem?_replicate]
    split
    · exact nothing
    · rfl

theorem Table.grow_zero (table : Table) : table.grow 0 = table := by
  rw [Table.grow, List.replicate_zero, List.append_nil]

theorem Table.Sound.extend (sound : table.Sound) (room : table.channels.length < maxChannels) :
    (table.grow chanExtendSize).Sound := by
  refine ⟨?_, ?_, ?_, ?_⟩
  · intro other entry found
    rw [Table.grow, List.getElem?_append] at found
    split at found
    · exact sound.entries other entry found
    · cases List.eq_of_mem_replicate (List.mem_of_getElem? found)
      exact Entry.proper_of_isNull rfl
  · rw [Table.grow, List.countP_append, List.countP_replicate, sound.counted]
    rfl
  · rw [Table.grow, List.length_append, List.length_replicate]
    exact Nat.add_lt_add_right room _
  · have same : (table.grow chanExtendSize).owner = table.owner := by
      funext other
      exact Table.bind_grow rfl table chanExtendSize other
    rw [same]
    exact sound.linked

/-- The number of a new channel is that of an entry without one, in the table as it is or
with more such entries. -/
theorem newNumber_cases (table : Table) :
    newNumber table = .ok none table ∨
      ∃ number entry count, newNumber table = .ok (some number) (table.grow count) ∧
        (table.grow count).channels[number]? = some entry ∧ entry.isNull ∧
        (count = 0 ∨ count = chanExtendSize ∧ table.channels.length < maxChannels) := by
  rw [newNumber, EStateM.get_bind_apply]
  cases search : table.channels.findIdx? Entry.isNull with
  | some number =>
    obtain ⟨inRange, null, _⟩ := List.findIdx?_eq_some_iff_getElem.1 search
    refine .inr ⟨number, table.channels[number], 0, ?_, ?_, null, .inl rfl⟩
    · rw [Table.grow_zero]
      rfl
    · rw [Table.grow_zero, List.getElem?_eq_getElem inRange]
  | none =>
    dsimp only
    by_cases full : table.channels.length ≥ maxChannels
    · rw [if_pos full]
      exact .inl rfl
    · rw [if_neg full]
      refine .inr ⟨table.channels.length, .null, chanExtendSize, rfl, ?_, rfl,
        .inr ⟨rfl, Nat.lt_of_not_le full⟩⟩
      rw [Table.grow, List.getElem?_append_right (Nat.le_refl _), Nat.sub_self]
      rfl

theorem ends_newNumber (sound : table.Sound) :
    Ends (fun result after => after.Sound ∧ (∃ count, after = table.grow count) ∧
        ∀ number, result = some number →
          ∃ entry, after.channels[number]? = some entry ∧ entry.isNull)
      (fun _ _ => False) (newNumber table) := by
  rcases newNumber_cases table with ran | ⟨number, entry, count, ran, found, null, grows⟩
  · rw [ran]
    exact ⟨sound, ⟨0, table.grow_zero.symm⟩, fun number none => by cases none⟩
  · have sound' : (table.grow count).Sound := by
      rcases grows with rfl | ⟨rfl, room⟩
      · rwa [Table.grow_zero]
      · exact sound.extend room
    rw [ran]
    refine ⟨sound', ⟨count, rfl⟩, ?_⟩
    rintro _ ⟨rfl⟩
    exact ⟨entry, found, null⟩

/-- The table with a new entry under a number. -/
def Table.enter (table : Table) (number : Nat) (slot : Slot) (channelAt : Address) : Table :=
  { table.put number ⟨slot, malloc table.allocated channelAt, none⟩ with
    chancount := table.chancount + 1 }

theorem ends_enterChannel {init : ChanM Unit} {kept failing : Slot → Prop}
    {failed : Fault → Table → Prop} (found : table.channels[number]? = some entry)
    (channelAt : Address) (ends : Ends (fun _ => kept) (fun _ => failing) (init entry.slot))
    (fails : ∀ failure slot, failing slot → failed (.exit failure)
      (table.put number ⟨slot, malloc table.allocated channelAt, none⟩)) :
    Ends (fun _ after => ∃ slot, kept slot ∧ after = table.enter number slot channelAt) failed
      (enterChannel number channelAt init table) := by
  have slot : table.slot number = entry.slot := by rw [Table.slot, found]
  have begins : enterChannel number channelAt init table =
      (onSlot number init >>= fun _ =>
        modify fun table => { table with chancount := table.chancount + 1 })
          (table.put number ⟨entry.slot, malloc table.allocated channelAt, none⟩) := by
    rw [← slot]
    rfl
  rw [begins]
  have entered : (table.put number ⟨entry.slot, malloc table.allocated channelAt,
      none⟩).channels[number]? = some ⟨entry.slot, malloc table.allocated channelAt, none⟩ :=
    Table.getElem?_put found
  apply ends_onSlot entered ends
  · intro failure slot failing
    rw [Table.put_put]
    exact fails failure slot failing
  · intro slot kept
    rw [Table.put_put]
    exact ⟨slot, kept, rfl⟩

theorem newchannel_identity {opts : Opts} {index remotechan : Nat} {type : ChanType}
    {transwindow transmaxpacket : Nat}
    (made : newchannel opts index remotechan type transwindow transmaxpacket = .ok channel) :
    channel.index = index ∧ channel.connPending = false := by
  obtain ⟨writebuf, _, made⟩ := Except.bind_eq_ok.1 made
  cases made
  exact ⟨rfl, rfl⟩

theorem inithandler_index (channel : Channel) (init : InitResult) :
    (inithandler channel init).1.index = channel.index := by
  rw [inithandler]
  split
  · rfl
  · cases init <;> rfl
  · cases init <;> rfl

theorem ends_recvMsgChannelOpen_index (opts : Opts) (number : Nat) (type : ChanType)
    (remotechan transwindow transmaxpacket : Nat) (init : InitResult) (slot : Slot) :
    Ends (fun _ after => ∀ channel, after.channel = some channel → channel.index = number)
      (fun _ after => after.channel = none)
      (recvMsgChannelOpen opts number type remotechan transwindow transmaxpacket init slot) := by
  change Ends _ _ ((if _ then _ else _ : ChanM Unit) Slot.free)
  split
  · exact fun channel present => by cases present
  · apply ends_fromResult
    · exact fun _ _ => rfl
    · intro channel made
      rw [noteAllowance_bind]
      have index : (inithandler channel init).1.index = number :=
        (inithandler_index channel init).trans (newchannel_identity made).1
      generalize inithandler channel init = ready at index
      obtain ⟨channel', init'⟩ := ready
      apply ends_setChannel
      cases init' with
      | refused reason => exact fun channel present => by cases present
      | _ =>
        intro channel present
        cases present
        exact index

theorem ends_sendMsgChannelOpenInit_index (opts : Opts) (number fd : Nat) (type : ChanType)
    (slot : Slot) :
    Ends (fun _ after => ∃ channel, after.channel = some channel ∧ channel.index = number ∧
        channel.connPending = false)
      (fun _ after => after.channel = none)
      (sendMsgChannelOpenInit opts number fd type slot) := by
  change Ends _ _ ((fromResult (newchannel opts number 0 type 0 0) >>= _) Slot.free)
  apply ends_fromResult
  · exact fun _ _ => rfl
  · intro channel made
    obtain ⟨index, pending⟩ := newchannel_identity made
    exact ⟨_, rfl, index, pending⟩

/-- A new channel points to nothing yet. -/
theorem Table.Sound.linked_enter (sound : table.Sound)
    (found : table.channels[number]? = some entry) (null : entry.isNull) (channelAt : Address) :
    Linked (Function.update table.owner number (some ⟨malloc table.allocated channelAt, none⟩))
      (table.connPending.map Connection.item) := by
  apply sound.linked.enter
  · rw [Table.owner_of_getElem? found, Entry.owner_of_isNull null]
  · exact fun other owner there => Table.address_ne_malloc channelAt there

/-- A new channel without a connection. -/
theorem Table.Sound.enterIdle (sound : table.Sound) (found : table.channels[number]? = some entry)
    (null : entry.isNull) (present : slot.channel = some channel) (index : channel.index = number)
    (pending : channel.connPending = false) (channelAt : Address) :
    (table.enter number slot channelAt).Sound := by
  apply sound.put found
  · intro other present'
    cases present.symm.trans present'
    exact ⟨index, pending⟩
  · rw [null, @Entry.isNull_of_present _ ⟨slot, _, none⟩ present]
    rfl
  · rw [@Entry.owner_of_present _ ⟨slot, _, none⟩ present]
    exact sound.linked_enter found null channelAt

/-- A new channel with a connection. -/
theorem Table.Sound.enterPending (sound : table.Sound)
    (found : table.channels[number]? = some entry) (null : entry.isNull)
    (present : slot.channel = some channel) (index : channel.index = number)
    (pending : channel.connPending) (channelAt : Address) {connection : Connection}
    (fresh : ∀ item ∈ table.connPending.map Connection.item, item.address ≠ connection.address)
    (calls : connection.cb = .channelConnectDone (malloc table.allocated channelAt)) :
    Table.Sound
      { table.put number
          ⟨slot, malloc table.allocated channelAt, some connection.address⟩ with
        chancount := table.chancount + 1
        connPending := table.connPending ++ [connection] } := by
  apply sound.put found
  · intro other present'
    cases present.symm.trans present'
    exact ⟨index, pending⟩
  · rw [null, @Entry.isNull_of_present _ ⟨slot, _, some _⟩ present]
    rfl
  · have item : connection.item =
        ⟨connection.address, some (malloc table.allocated channelAt)⟩ := by
      rw [Connection.item, calls]
      rfl
    have linked := (sound.linked_enter found null channelAt).link (Function.update_self ..) fresh
    rw [Function.update_idem] at linked
    rw [@Entry.owner_of_present _ ⟨slot, _, some _⟩ present, List.map_append, List.map_singleton,
      item]
    exact linked

/-- The init handler refuses the new channel. -/
theorem Table.Sound.refuse (sound : table.Sound) (found : table.channels[number]? = some entry)
    (null : entry.isNull) (gone : slot.channel = none) (channelAt : Address) :
    Ends (fun _ after => after.Sound) (fun _ _ => False)
      (forgetChannel number (table.enter number slot channelAt)) := by
  have entered : (table.enter number slot channelAt).channels[number]? =
      some ⟨slot, malloc table.allocated channelAt, none⟩ := Table.getElem?_put found
  have null' : Entry.isNull ⟨slot, malloc table.allocated channelAt, none⟩ :=
    Option.isNone_iff_eq_none.2 gone
  have same : { (table.enter number slot channelAt).put number
      ⟨slot, malloc table.allocated channelAt, none⟩ with
        chancount := table.chancount + 1 - 1
        connPending := table.connPending } =
      table.put number ⟨slot, malloc table.allocated channelAt, none⟩ := by
    simp only [Table.enter, Table.put, List.set_set, Nat.add_sub_cancel]
  rw [forgetChannel_eq entered (fun address points => by cases points), cancelled_none]
  change Table.Sound { (table.enter number slot channelAt).put number _ with
    chancount := table.chancount + 1 - 1, connPending := table.connPending }
  rw [same]
  exact sound.keepNull found null null'

/-- The init handler starts a connection for the new channel. -/
theorem Table.Sound.connect (sound : table.Sound) (found : table.channels[number]? = some entry)
    (null : entry.isNull) (present : slot.channel = some channel) (index : channel.index = number)
    (pending : channel.connPending) (channelAt connectionAt : Address) :
    Ends (fun _ after => after.Sound) (fun _ _ => False)
      ((do
        let address ← connectRemote (.channelConnectDone (malloc table.allocated channelAt))
          connectionAt
        setEntry number ⟨slot, malloc table.allocated channelAt, some address⟩ : TableM Unit)
          (table.enter number slot channelAt)) := by
  let connection : Connection :=
    { address := malloc (table.enter number slot channelAt).allocated connectionAt
      cb := .channelConnectDone (malloc table.allocated channelAt)
      sock := none }
  have fresh : ∀ item ∈ table.connPending.map Connection.item,
      item.address ≠ connection.address :=
    fun item listed => Table.connection_ne_malloc connectionAt listed
  have same : Table.put
      { table.enter number slot channelAt with connPending := table.connPending ++ [connection] }
      number ⟨slot, malloc table.allocated channelAt, some connection.address⟩ =
      { table.put number ⟨slot, malloc table.allocated channelAt, some connection.address⟩ with
        chancount := table.chancount + 1
        connPending := table.connPending ++ [connection] } := by
    simp only [Table.enter, Table.put, List.set_set]
  change Table.Sound (Table.put
    { table.enter number slot channelAt with connPending := table.connPending ++ [connection] }
    number ⟨slot, malloc table.allocated channelAt, some connection.address⟩)
  rw [same]
  exact sound.enterPending found null present index pending channelAt fresh rfl

theorem ends_openChannel (opts : Opts) (sound : table.Sound) (type : ChanType)
    (remotechan transwindow transmaxpacket : Nat) (init : InitResult)
    (channelAt connectionAt : Address) :
    Ends (fun _ after => after.Sound) Safe
      (openChannel opts type remotechan transwindow transmaxpacket init channelAt connectionAt
        table) := by
  rw [openChannel]
  split
  · exact sound
  · apply (ends_newNumber sound).ofNoFailure.bind
    rintro result table ⟨sound, _, chosen⟩
    cases result with
    | none => exact sound
    | some number =>
      obtain ⟨entry, found, null⟩ := chosen number rfl
      apply (ends_enterChannel found channelAt
        (ends_recvMsgChannelOpen_index opts number type remotechan transwindow transmaxpacket init
          entry.slot) ?_).bind
      · rintro _ _ ⟨slot, index, rfl⟩
        have entered : (table.enter number slot channelAt).channels[number]? =
            some ⟨slot, malloc table.allocated channelAt, none⟩ := Table.getElem?_put found
        rw [theEntry_bind entered]
        dsimp only
        cases present : slot.channel with
        | none =>
          dsimp only
          exact (sound.refuse found null present channelAt).ofNoFailure
        | some channel =>
          dsimp only
          by_cases pending : channel.connPending
          · rw [if_pos pending]
            exact (sound.connect found null present (index channel present) pending channelAt
              connectionAt).ofNoFailure
          · rw [if_neg pending]
            exact sound.enterIdle found null present (index channel present)
              (Bool.eq_false_iff.2 pending) channelAt
      · intro failure slot gone
        exact (sound.keepNull found null (Option.isNone_iff_eq_none.2 gone)).exits failure

theorem ends_openOwnChannel (opts : Opts) (sound : table.Sound) (type : ChanType) (fd : Nat)
    (channelAt : Address) :
    Ends (fun _ after => after.Sound) Safe (openOwnChannel opts type fd channelAt table) := by
  rw [openOwnChannel]
  split
  · exact sound
  · apply (ends_newNumber sound).ofNoFailure.bind
    rintro result table ⟨sound, _, chosen⟩
    cases result with
    | none => exact sound
    | some number =>
      obtain ⟨entry, found, null⟩ := chosen number rfl
      apply (ends_enterChannel found channelAt
        (ends_sendMsgChannelOpenInit_index opts number fd type entry.slot) ?_).mono
      · rintro _ _ ⟨slot, ⟨channel, present, index, pending⟩, rfl⟩
        exact sound.enterIdle found null present index pending channelAt
      · intro failure slot gone
        exact (sound.keepNull found null (Option.isNone_iff_eq_none.2 gone)).exits failure

/-! ## Connections -/

theorem Table.Sound.distinct (sound : table.Sound) :
    (table.connPending.map Connection.address).Nodup := by
  have distinct := sound.linked.distinct
  rwa [List.map_map] at distinct

variable {connection : Connection}

theorem theConnection_bind (sound : table.Sound) (listed : connection ∈ table.connPending)
    (next : Connection → TableM α) :
    (theConnection connection.address >>= next) table = next connection table := by
  have found : table.connPending.find? (fun other => other.address = connection.address) =
      some connection := by
    cases search : table.connPending.find? (fun other => other.address = connection.address) with
    | none =>
      have absent := List.find?_eq_none.1 search connection listed
      exact absurd (decide_eq_true rfl) absent
    | some other =>
      have chosen := List.find?_some search
      have same : other.address = connection.address := of_decide_eq_true chosen
      rw [List.inj_on_of_nodup_map sound.distinct (List.mem_of_find?_eq_some search) listed same]
  have got : theConnection connection.address table = .ok connection table := by
    rw [theConnection, EStateM.get_bind_apply, found]
    rfl
  exact EStateM.bind_of_ok got next

/-- A step of the walk: the invariant holds, and all other connections are there. -/
def Table.Walked (address : Address) (before after : Table) : Prop :=
  after.Sound ∧ ∀ other ∈ before.connPending.map Connection.address, other ≠ address →
    other ∈ after.connPending.map Connection.address

theorem map_address_setConnection (address : Address) {change : Connection → Connection}
    (same : ∀ connection, (change connection).address = connection.address) :
    (table.setConnection address change).connPending.map Connection.address =
      table.connPending.map Connection.address := by
  rw [Table.setConnection, List.map_map]
  apply List.map_congr_left
  intro connection _
  dsimp only [Function.comp]
  split
  · exact same connection
  · rfl

theorem Table.Sound.setSock (sound : table.Sound) (address : Address) (sock : Option Nat) :
    Table.Walked address table (table.setConnection address ({ · with sock := sock })) := by
  have items : (table.setConnection address ({ · with sock := sock })).connPending.map
      Connection.item = table.connPending.map Connection.item := by
    rw [Table.setConnection, List.map_map]
    apply List.map_congr_left
    intro connection _
    dsimp only [Function.comp]
    split <;> rfl
  refine ⟨⟨sound.entries, sound.counted, sound.size, ?_⟩, ?_⟩
  · rw [items]
    exact sound.linked
  · intro other listed _
    rwa [map_address_setConnection]
    intro _
    rfl

theorem filter_others (table : Table) (address : Address) :
    ∀ other ∈ table.connPending.map Connection.address, other ≠ address →
      other ∈ (table.connPending.filter (·.address ≠ address)).map Connection.address := by
  intro other mem different
  obtain ⟨connection, listed, rfl⟩ := List.mem_map.1 mem
  exact List.mem_map_of_mem (List.mem_filter.2 ⟨listed, decide_eq_true different⟩)

/-- A connection that calls back to nothing goes away. -/
theorem Table.Sound.removeConnect (sound : table.Sound) (listed : connection ∈ table.connPending)
    (alone : connection.cb.channel = none) :
    Table.Walked connection.address table
      { table with connPending := table.connPending.filter (·.address ≠ connection.address) } := by
  refine ⟨⟨sound.entries, sound.counted, sound.size, ?_⟩, filter_others table connection.address⟩
  have removed := sound.linked.removeItem (List.mem_map_of_mem listed) alone
  rw [List.filter_map] at removed
  exact removed

/-- A connection that calls back to a channel leads to it. -/
theorem Table.Sound.exists_channel (sound : table.Sound) (listed : connection ∈ table.connPending)
    (calls : connection.cb = .channelConnectDone address) :
    ∃ number entry channel,
      table.channels.findIdx? (fun entry => !entry.isNull && entry.address = address) =
        some number ∧ table.channels[number]? = some entry ∧ entry.slot.channel = some channel ∧
      entry.address = address ∧ entry.connPending = some connection.address := by
  have back : connection.item.back = some address := by
    rw [Connection.item, calls]
    rfl
  obtain ⟨number, owner, owns, isAt, points⟩ :=
    sound.linked.pending _ (List.mem_map_of_mem listed) address back
  have whole : ∀ (other : Nat) (entry : Entry), table.channels[other]? = some entry →
      entry.isNull = false → entry.address = address →
        ∃ channel, entry.slot.channel = some channel ∧ entry.connPending = some connection.address := by
    intro other entry found live same
    obtain ⟨channel, present⟩ := Entry.exists_channel live
    have owner' := (Table.owner_of_getElem? found).trans (Entry.owner_of_present present)
    cases sound.linked.apart other number _ _ owner' owns (same.trans isAt.symm)
    cases owner'.symm.trans owns
    exact ⟨channel, present, points⟩
  cases search : table.channels.findIdx? fun entry => !entry.isNull && entry.address = address with
  | none =>
    obtain ⟨entry, found, owns⟩ := Option.bind_eq_some_iff.1 owns
    have absent := List.findIdx?_eq_none_iff.1 search entry (List.mem_of_getElem? found)
    rw [Entry.owner] at owns
    split at owns
    case _ channel present =>
      cases owns
      rw [Entry.isNull, present, decide_eq_true isAt] at absent
      cases absent
    case _ => cases owns
  | some other =>
    obtain ⟨lt, chosen, _⟩ := List.findIdx?_eq_some_iff_getElem.1 search
    have found := List.getElem?_eq_getElem lt
    rw [Bool.and_eq_true, Bool.not_eq_true'] at chosen
    have same := of_decide_eq_true chosen.2
    obtain ⟨channel, present, points⟩ := whole other _ found chosen.1 same
    exact ⟨other, _, channel, rfl, found, present, same, points⟩

/-- The channel is connected, and the connection goes away. -/
theorem Table.Sound.establish (sound : table.Sound) (found : table.channels[number]? = some entry)
    {channel' : Channel} (present : entry.slot.channel = some channel)
    (points : entry.connPending = some connection.address) (present' : slot.channel = some channel')
    (index : channel'.index = channel.index) (pending : channel'.connPending = false) :
    Table.Walked connection.address table
      { table.put number ⟨slot, entry.address, none⟩ with
        connPending := table.connPending.filter (·.address ≠ connection.address) } := by
  have owner := (Table.owner_of_getElem? found).trans (Entry.owner_of_present present)
  refine ⟨?_, filter_others table connection.address⟩
  · apply sound.put found
    · intro other present''
      cases present'.symm.trans present''
      exact ⟨index.trans (sound.entries number entry found channel present).1, pending⟩
    · have live := Entry.isNull_of_present present
      have counted := sound.one_le_chancount found live
      rw [live, @Entry.isNull_of_present _ ⟨slot, _, none⟩ present']
      exact (Nat.sub_add_cancel counted).symm
    · have released := sound.linked.release owner points
      rw [List.filter_map] at released
      rw [@Entry.owner_of_present _ ⟨slot, _, none⟩ present']
      exact released

/-- The connection was made. -/
theorem ends_connectDone_some (search : table.channels.findIdx?
      (fun entry => !entry.isNull && entry.address = address) = some number)
    (found : table.channels[number]? = some entry) (present : entry.slot.channel = some channel)
    (sock : Nat) :
    Ends (fun _ after => ∃ slot channel', slot.channel = some channel' ∧
        channel'.index = channel.index ∧ channel'.connPending = false ∧
        after = table.put number ⟨slot, entry.address, none⟩)
      (fun _ _ => False) (connectDone (some sock) address table) := by
  have done : Ends
      (fun _ after => ∃ channel', after.channel = some channel' ∧
        channel'.index = channel.index ∧ channel'.connPending = false)
      (fun _ _ => False) (onChannel (channelConnectDone (some sock)) entry.slot) := by
    rw [onChannel_of_present present]
    exact ⟨_, rfl, rfl, rfl⟩
  rw [connectDone, EStateM.get_bind_apply, search]
  apply ends_onSlot found done
  · exact fun _ _ never => never
  · rintro slot ⟨channel', present', index, pending⟩
    dsimp only
    rw [theEntry_bind (Table.getElem?_put found)]
    exact ⟨slot, channel', present', index, pending, Table.put_put _ _⟩

/-- The connection failed. -/
theorem ends_connectDone_none (sound : table.Sound) (search : table.channels.findIdx?
      (fun entry => !entry.isNull && entry.address = address) = some number)
    (found : table.channels[number]? = some entry) (present : entry.slot.channel = some channel) :
    Ends (fun _ after => after.Sound ∧
        after.connPending = cancelled entry.connPending table.connPending)
      (fun _ _ => False) (connectDone none address table) := by
  have done : Ends (fun _ after => after.channel = none) (fun _ _ => False)
      (onChannel (channelConnectDone none) entry.slot) := by
    rw [onChannel_of_present present]
    rfl
  have live := Entry.isNull_of_present present
  rw [connectDone, EStateM.get_bind_apply, search]
  apply ends_onSlot found done
  · exact fun _ _ never => never
  · intro slot gone
    apply (sound.remove found live gone).mono
    exact fun _ _ removed => ⟨removed.1, removed.2.2⟩

/-- **A connection that completes reaches the channel it was made for**, or nothing if
that is gone. -/
theorem ends_handover (sound : table.Sound) (listed : connection ∈ table.connPending)
    (sock : Option Nat) :
    Ends (fun _ after => Table.Walked connection.address table after) Safe
      ((do
        callback sock connection.cb
        removeConnect connection.address : TableM Unit) table) := by
  cases calls : connection.cb with
  | cancelCallback =>
    apply sound.removeConnect listed
    rw [calls]
    rfl
  | cliConnected =>
    cases sock with
    | none => exact ⟨nofun, sound⟩
    | some sock =>
      apply sound.removeConnect listed
      rw [calls]
      rfl
  | channelConnectDone address =>
    obtain ⟨number, entry, channel, search, found, present, _, points⟩ :=
      sound.exists_channel listed calls
    cases sock with
    | some sock =>
      apply (ends_connectDone_some search found present sock).ofNoFailure.bind
      rintro _ _ ⟨slot, channel', present', index, pending, rfl⟩
      exact sound.establish found present points present' index pending
    | none =>
      apply (ends_connectDone_none sound search found present).ofNoFailure.bind
      rintro _ after ⟨sound', cancels⟩
      rw [points] at cancels
      have mem : { connection with cb := .cancelCallback } ∈ after.connPending := by
        rw [cancels]
        exact List.mem_map.2 ⟨connection, listed, if_pos rfl⟩
      have addresses : after.connPending.map Connection.address =
          table.connPending.map Connection.address := by
        rw [cancels, cancelled, List.map_map]
        apply List.map_congr_left
        intro other _
        dsimp only [Function.comp]
        split <;> rfl
      obtain ⟨sound'', others⟩ := sound'.removeConnect mem rfl
      rw [addresses] at others
      exact ⟨sound'', others⟩

/-! ## The walks -/

/-- The rest of a walk is in the list. -/
def Table.Listed (table : Table) (addresses : List Address) : Prop :=
  addresses.Nodup ∧ ∀ address ∈ addresses, address ∈ table.connPending.map Connection.address

theorem Table.Listed.next {rest : List Address} {after : Table}
    (listed : table.Listed (address :: rest)) (walked : Table.Walked address table after) :
    after.Listed rest := by
  obtain ⟨distinct, there⟩ := listed
  obtain ⟨first, distinct⟩ := List.nodup_cons.1 distinct
  refine ⟨distinct, ?_⟩
  intro other mem
  apply walked.2 other (there other (List.mem_cons_of_mem _ mem))
  rintro rfl
  exact first mem

theorem ends_setConnectFds (tried : Address → Option Nat) {addresses : List Address}
    (sound : table.Sound) (listed : table.Listed addresses) :
    Ends (fun _ after => after.Sound) Safe (setConnectFds tried addresses table) := by
  induction addresses generalizing table with
  | nil => exact sound
  | cons address rest ih =>
    obtain ⟨connection, mem, rfl⟩ := List.mem_map.1 (listed.2 address List.mem_cons_self)
    rw [setConnectFds, theConnection_bind sound mem]
    cases connection.sock <|> tried connection.address with
    | some sock =>
      have walked := sound.setSock connection.address (some sock)
      exact ih walked.1 (listed.next walked)
    | none =>
      change Ends _ _ ((callback none connection.cb >>= fun _ =>
        removeConnect connection.address >>= fun _ => setConnectFds tried rest) table)
      rw [← bind_assoc]
      apply (ends_handover sound mem none).bind
      intro _ after walked
      exact ih walked.1 (listed.next walked)

theorem ends_handleConnectFds (progress : Address → Progress) {addresses : List Address}
    (sound : table.Sound) (listed : table.Listed addresses) :
    Ends (fun _ after => after.Sound) Safe (handleConnectFds progress addresses table) := by
  induction addresses generalizing table with
  | nil => exact sound
  | cons address rest ih =>
    obtain ⟨connection, mem, rfl⟩ := List.mem_map.1 (listed.2 address List.mem_cons_self)
    have passed : Table.Walked connection.address table table := ⟨sound, fun _ there _ => there⟩
    have goesOn := ih sound (listed.next passed)
    rw [handleConnectFds, theConnection_bind sound mem]
    cases connection.sock with
    | none => exact goesOn
    | some sock =>
      cases progress connection.address with
      | waiting => exact goesOn
      | failed =>
        have walked := sound.setSock connection.address none
        exact ih walked.1 (listed.next walked)
      | established =>
        apply (ends_handover sound mem (some sock)).mono
        exact fun _ _ walked => walked.1

theorem ends_chancleanup {numbers : List Nat} (sound : table.Sound)
    (lt : ∀ number ∈ numbers, number < table.channels.length) :
    Ends (fun _ after => after.Sound) Safe (chancleanup numbers table) := by
  induction numbers generalizing table with
  | nil => exact sound
  | cons number rest ih =>
    obtain ⟨entry, found⟩ : ∃ entry, table.channels[number]? = some entry :=
      ⟨_, List.getElem?_eq_getElem (lt number List.mem_cons_self)⟩
    rw [chancleanup, theEntry_bind found]
    split
    · exact ih sound fun other mem => lt other (List.mem_cons_of_mem _ mem)
    case _ live =>
      have gone : Ends (fun _ after => after.channel = none) (fun _ _ => False)
          (removeChannel entry.slot) := rfl
      apply ends_onSlot found gone
      · exact fun _ _ never => never.elim
      · intro slot gone
        apply (sound.remove found (Bool.eq_false_iff.2 live) gone).ofNoFailure.bind
        rintro _ after ⟨sound', channels, _⟩
        apply ih sound'
        intro other mem
        rw [channels, Table.put, List.length_set]
        exact lt other (List.mem_cons_of_mem _ mem)

/-! ## Runs -/

/-- **No event breaks the table.** -/
theorem ends_tableStep (opts : Opts) (event : TableEvent) (table : Table) (sound : table.Sound) :
    Ends (fun _ after => after.Sound) Safe (tableStep opts event table) := by
  have whole : table.Listed (table.connPending.map Connection.address) :=
    ⟨sound.distinct, fun _ mem => mem⟩
  cases event with
  | recvOpen => exact ends_openChannel opts sound _ _ _ _ _ _ _
  | openInit => exact ends_openOwnChannel opts sound _ _ _
  | forChannel number event =>
    rw [tableStep]
    split
    · exact sound
    case _ running =>
      apply (ends_forChannel opts sound number (Bool.eq_false_iff.2 running)).imp
      · exact fun _ _ kept => kept.1
      · exact fun _ _ kept => kept.1
  | connect connectionAt =>
    refine ⟨sound.entries, sound.counted, sound.size, ?_⟩
    change Linked table.owner (List.map _ (table.connPending ++ [_]))
    rw [List.map_append]
    exact sound.linked.addItem fun item listed => Table.connection_ne_malloc connectionAt listed
  | setConnectFds tried => exact ends_setConnectFds tried sound whole
  | handleConnectFds progress => exact ends_handleConnectFds progress sound whole
  | chancleanup => exact ends_chancleanup sound fun number mem => List.mem_range.1 mem

theorem ends_tableRun (opts : Opts) (events : List TableEvent) :
    Ends (fun _ after => after.Sound) Safe (runAll (tableStep opts) events chaninitialise) := by
  have always : AllMeet (tableStep opts) (fun _ _ => True) events chaninitialise :=
    allMeet_of_forall (fun _ _ _ => trivial) chaninitialise
  exact ends_runAll _ (fun event table _ sound => ends_tableStep opts event table sound) always
    sound_chaninitialise

end

/-- **The table of channels and the pending connections.**  After any events, every channel
is under its own number, the channels are counted, the list is not too long, and the
number of a new channel has no other channel.  A connection that would call back to a
channel has the address of a channel that is there, and whose connection it is; nothing
that has been freed is used, whatever connections complete and whatever memory is used
again. -/
theorem channelTable (opts : Opts) (events : List TableEvent) :
    let result := runAll (tableStep opts) events chaninitialise
    let table := finalState result
    (∀ (number : Nat) (entry : Entry) (channel : Channel), table.channels[number]? = some entry →
      entry.slot.channel = some channel → channel.index = number) ∧
    table.chancount = table.channels.countP (!·.isNull) ∧
    table.channels.length < maxChannels + chanExtendSize ∧
    (∀ number after, newNumber table = .ok (some number) after →
      (table.slot number).channel = none) ∧
    (∀ connection ∈ table.connPending, ∀ address, connection.cb = .channelConnectDone address →
      ∃ (number : Nat) (entry : Entry), table.channels[number]? = some entry ∧
        entry.slot.channel.isSome ∧ entry.address = address ∧
        entry.connPending = some connection.address) ∧
    failureOf result ≠ some .dangling := by
  intro result table
  have ends := ends_tableRun opts events
  have sound : table.Sound := by
    change (finalState result).Sound
    cases ran : result with
    | ok value after =>
      rw [show runAll (tableStep opts) events chaninitialise = .ok value after from ran] at ends
      exact ends
    | error fault after =>
      rw [show runAll (tableStep opts) events chaninitialise = .error fault after from ran] at ends
      exact ends.2
  refine ⟨?_, sound.counted, sound.size, ?_, ?_, ?_⟩
  · intro number entry channel found present
    exact (sound.entries number entry found channel present).1
  · intro number after chose
    rcases newNumber_cases table with ran | ⟨number', entry, count, ran, found, null, _⟩
    · cases chose.symm.trans ran
    · cases chose.symm.trans ran
      rw [Table.channel_slot, ← Table.bind_grow rfl table count, found]
      exact Option.isNone_iff_eq_none.1 null
  · intro connection listed address calls
    obtain ⟨number, entry, channel, _, found, present, isAt, points⟩ :=
      sound.exists_channel listed calls
    refine ⟨number, entry, found, ?_, isAt, points⟩
    rw [present]
    rfl
  · change failureOf (runAll (tableStep opts) events chaninitialise) ≠ _
    cases ran : runAll (tableStep opts) events chaninitialise with
    | ok value after => nofun
    | error fault after =>
      rw [ran] at ends
      intro same
      exact ends.1 (Option.some_inj.1 same)

end Dropbear.Channels
