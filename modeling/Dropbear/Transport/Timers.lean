/-
# Timeouts

`checktimeouts` acts on what has become due, and `select_timeout` says how long the session
may sleep until then.  Each of the two lists the times by itself.  The keepalive that is sent
after a time without sending anything, and the limit of the time without hearing anything,
are only in the first list.
-/

import Dropbear.Transport.Basic

namespace Dropbear.Transport

open Program Kex

def longMax : Int := 2 ^ 63 - 1
def kexRekeyTimeout : Int := 3600 * 8
def kexRekeyData : Nat := 2 ^ 30
def authTimeout : Int := 300
def defaultKeepaliveLimit : Int := 3

/-- The options that are times, which are read as unsigned integers. -/
structure RunOpts where
  keepaliveSecs : Nat
  idleTimeoutSecs : Nat
  maxDurationSecs : Nat
  keepaliveSecs_lt : keepaliveSecs < 2 ^ 32
  idleTimeoutSecs_lt : idleTimeoutSecs < 2 ^ 32
  maxDurationSecs_lt : maxDurationSecs < 2 ^ 32

/-- The difference in seconds, clamped to `LONG_MAX`. -/
def elapsed (now prev : Int) : Int := if now - prev > longMax then longMax else now - prev

variable {σ α : Type}

/-! ## What becomes due -/

/-- The conditions of `checktimeouts` that depend on the time. -/
inductive Timer where
  | auth
  | rekey
  /-- Nothing has been sent. -/
  | keepaliveIdle
  /-- Nothing has been heard, and no keepalive has been sent. -/
  | keepaliveProbe
  /-- Nothing has been heard in spite of keepalives. -/
  | keepaliveLimit
  | idle
  | maxDuration
  deriving DecidableEq, Repr

namespace Timer

/-- Whether the time is looked at. -/
def enabled (role : Role) (opts : RunOpts) (ses : Ses σ α) : Timer → Bool
  | .auth => role = .server && !ses.authdone
  | .rekey => ses.remoteident.isSome && !ses.kexstate.sentkexinit
  | .keepaliveIdle | .keepaliveProbe | .keepaliveLimit =>
    ses.remoteident.isSome && opts.keepaliveSecs > 0 && ses.authdone
  | .idle => ses.remoteident.isSome && opts.idleTimeoutSecs > 0
  | .maxDuration => ses.remoteident.isSome && opts.maxDurationSecs > 0

/-- Whether it has passed. -/
def passed (opts : RunOpts) (ses : Ses σ α) (now : Int) : Timer → Bool
  | .auth => elapsed now ses.connectTime ≥ authTimeout
  | .rekey => elapsed now ses.kexstate.lastkextime ≥ kexRekeyTimeout
  | .keepaliveIdle => elapsed now ses.lastPacketTimeAnySent ≥ opts.keepaliveSecs
  | .keepaliveProbe =>
    elapsed now ses.lastPacketTimeKeepaliveRecv ≥ opts.keepaliveSecs &&
      elapsed now ses.lastPacketTimeKeepaliveSent ≥ opts.keepaliveSecs
  | .keepaliveLimit =>
    elapsed now ses.lastPacketTimeKeepaliveRecv ≥ opts.keepaliveSecs * defaultKeepaliveLimit
  | .idle => elapsed now ses.lastPacketTimeIdle ≥ opts.idleTimeoutSecs
  | .maxDuration => elapsed now ses.connectTime ≥ opts.maxDurationSecs

def due (role : Role) (opts : RunOpts) (ses : Ses σ α) (now : Int) (timer : Timer) : Bool :=
  timer.enabled role opts ses && timer.passed opts ses now

end Timer

/-- A keepalive is a request on a channel that is open, or a global one. -/
def keepalivePayload : Option Nat → Bytes
  | some remotechan =>
    msgChannelRequest.toUInt8 :: be32 remotechan ++ wireString (ascii "keepalive@openssh.com") ++
      [1]
  | none => msgGlobalRequest.toUInt8 :: wireString (ascii "keepalive@openssh.com") ++ [1]

/-- Keepalives shouldn't update the idle timeout. -/
def Ses.keptAlive (ses : Ses σ α) (oldTimeIdle : Int) : Ses σ α :=
  { ses with
    lastPacketTimeKeepaliveSent := ses.now
    lastPacketTimeIdle := oldTimeIdle }

def sendMsgKeepalive (config : Config σ) (anyReadyChannel : α → Option Nat) : SesM σ α Unit := do
  let ses ← get
  encryptPacket config (keepalivePayload (anyReadyChannel ses.app))
  modify (·.keptAlive ses.lastPacketTimeIdle)

/-- Start a key exchange after a time, after much data or on request. -/
def checkRekey (config : Config σ) (opts : RunOpts) : SesM σ α Unit := do
  let ses ← get
  if ¬ ses.kexstate.sentkexinit ∧ (Timer.rekey.passed opts ses ses.now ∨
      u32 (ses.kexstate.datarecv + ses.kexstate.datatrans) ≥ kexRekeyData ∨
        ses.kexstate.needrekey) then do
    modify fun ses => { ses with kexstate := { ses.kexstate with needrekey := false } }
    sendMsgKexinit config
  else pure ()

/-- Send a keepalive if one is due. -/
def checkKeepalive (config : Config σ) (opts : RunOpts) (anyReadyChannel : α → Option Nat)
    (timer : Timer) : SesM σ α Unit := do
  let ses ← get
  if timer.due config.role opts ses ses.now then sendMsgKeepalive config anyReadyChannel
  else pure ()

/-- End the session if that is due. -/
def checkEnd (config : Config σ) (opts : RunOpts) (timer : Timer) (failure : Exit) :
    SesM σ α Unit := do
  let ses ← get
  if timer.due config.role opts ses ses.now then throw failure else pure ()

/-- Check all timeouts which are required. -/
def checktimeouts (config : Config σ) (opts : RunOpts) (anyReadyChannel : α → Option Nat) :
    SesM σ α Unit := do
  checkEnd config opts .auth (.close "Timeout before auth")
  let ses ← get
  -- we can't rekey if we haven't done remote ident exchange yet
  if ses.remoteident.isNone then pure ()
  else do
    checkRekey config opts
    checkKeepalive config opts anyReadyChannel .keepaliveIdle
    checkKeepalive config opts anyReadyChannel .keepaliveProbe
    checkEnd config opts .keepaliveLimit (.exit "Keepalive timeout")
    checkEnd config opts .idle (.close "Idle timeout")
    checkEnd config opts .maxDuration (.close "Max duration reached")

/-! ## How long the session may sleep -/

def updateTimeout (limit now lastEvent timeout : Int) : Int :=
  if lastEvent > 0 ∧ limit > 0 then min timeout (max 0 (limit - elapsed now lastEvent))
  else timeout

/-- The minimum timeout that might be required, so as to avoid waking when unnecessary. -/
def selectTimeout (role : Role) (opts : RunOpts) (ses : Ses σ α) (now : Int) : Int :=
  let timeout := kexRekeyTimeout
  let timeout :=
    if ¬ ses.kexstate.sentkexinit then
      updateTimeout kexRekeyTimeout now ses.kexstate.lastkextime timeout
    else timeout
  let timeout := if ses.kexstate.needrekey then 0 else timeout
  let timeout :=
    if ¬ ses.authdone ∧ role = .server then updateTimeout authTimeout now ses.connectTime timeout
    else timeout
  let timeout :=
    if ses.authdone then
      updateTimeout opts.keepaliveSecs now
        (max ses.lastPacketTimeKeepaliveRecv ses.lastPacketTimeKeepaliveSent) timeout
    else timeout
  let timeout := updateTimeout opts.idleTimeoutSecs now ses.lastPacketTimeIdle timeout
  let timeout := updateTimeout opts.maxDurationSecs now ses.connectTime timeout
  -- clamp negative timeouts to zero - event has already triggered
  max timeout 0

/-- The session wakes before anything becomes due that was not due when it went to sleep. -/
structure Timely (role : Role) (opts : RunOpts) (ses : Ses σ α) (now : Int) : Prop where
  nonneg : 0 ≤ selectTimeout role opts ses now
  awake : ∀ (timer : Timer) (later : Int), now ≤ later →
    later < now + selectTimeout role opts ses now →
      timer.due role opts ses later → timer.due role opts ses now

/-! ## Deadlines -/

theorem elapsed_ge_iff {limit : Int} (now prev : Int) (fits : limit ≤ longMax) :
    elapsed now prev ≥ limit ↔ prev + limit ≤ now := by
  rw [elapsed]
  split <;> omega

/-- The time at which a timer passes. -/
def Timer.deadline (opts : RunOpts) (ses : Ses σ α) : Timer → Int
  | .auth => ses.connectTime + authTimeout
  | .rekey => ses.kexstate.lastkextime + kexRekeyTimeout
  | .keepaliveIdle => ses.lastPacketTimeAnySent + opts.keepaliveSecs
  | .keepaliveProbe =>
    max ses.lastPacketTimeKeepaliveRecv ses.lastPacketTimeKeepaliveSent + opts.keepaliveSecs
  | .keepaliveLimit => ses.lastPacketTimeKeepaliveRecv + opts.keepaliveSecs * defaultKeepaliveLimit
  | .idle => ses.lastPacketTimeIdle + opts.idleTimeoutSecs
  | .maxDuration => ses.connectTime + opts.maxDurationSecs

/-- A time that `select_timeout` considers, as a limit and the event that it counts from. -/
structure Watch where
  limit : Int
  lastEvent : Int

/-- The time is set, and it comes by this deadline. -/
structure Watch.By (watch : Watch) (deadline : Int) : Prop where
  lastEvent_pos : 0 < watch.lastEvent
  limit_pos : 0 < watch.limit
  le : watch.lastEvent + watch.limit ≤ deadline

/-- The times that `select_timeout` considers, in its order. -/
def watches (role : Role) (opts : RunOpts) (ses : Ses σ α) : List Watch :=
  (if ¬ ses.kexstate.sentkexinit then [⟨kexRekeyTimeout, ses.kexstate.lastkextime⟩] else []) ++
  (if ¬ ses.authdone ∧ role = .server then [⟨authTimeout, ses.connectTime⟩] else []) ++
  (if ses.authdone then
    [⟨opts.keepaliveSecs, max ses.lastPacketTimeKeepaliveRecv ses.lastPacketTimeKeepaliveSent⟩]
  else []) ++
  [⟨opts.idleTimeoutSecs, ses.lastPacketTimeIdle⟩, ⟨opts.maxDurationSecs, ses.connectTime⟩]

/-- The session is awake by the deadline, since a key exchange is asked for or since another
time that it wakes for is not later. -/
def Watched (role : Role) (opts : RunOpts) (ses : Ses σ α) (deadline : Int) : Prop :=
  ses.kexstate.needrekey ∨ ∃ watch ∈ watches role opts ses, watch.By deadline

section

variable {role : Role} {opts : RunOpts} {ses : Ses σ α} {now : Int}

theorem Timer.passed_iff (timer : Timer) :
    timer.passed opts ses now ↔ timer.deadline opts ses ≤ now := by
  have keepalive := opts.keepaliveSecs_lt
  have idle := opts.idleTimeoutSecs_lt
  have duration := opts.maxDurationSecs_lt
  have bound : (2 ^ 32 : Int) * 3 ≤ longMax := by decide
  cases timer with
  | keepaliveProbe =>
    rw [Timer.passed, Bool.and_eq_true, decide_eq_true_iff, decide_eq_true_iff,
      elapsed_ge_iff _ _ (by omega), elapsed_ge_iff _ _ (by omega), Timer.deadline]
    omega
  | auth => exact decide_eq_true_iff.trans (elapsed_ge_iff _ _ (by decide))
  | rekey => exact decide_eq_true_iff.trans (elapsed_ge_iff _ _ (by decide))
  | keepaliveIdle => exact decide_eq_true_iff.trans (elapsed_ge_iff _ _ (by omega))
  | keepaliveLimit =>
    refine decide_eq_true_iff.trans (elapsed_ge_iff _ _ ?_)
    rw [defaultKeepaliveLimit]
    omega
  | idle => exact decide_eq_true_iff.trans (elapsed_ge_iff _ _ (by omega))
  | maxDuration => exact decide_eq_true_iff.trans (elapsed_ge_iff _ _ (by omega))

variable {limit lastEvent timeout sleep : Int}

theorem le_updateTimeout_iff (pos : 0 < sleep) (fits : limit ≤ longMax) :
    sleep ≤ updateTimeout limit now lastEvent timeout ↔
      sleep ≤ timeout ∧ ¬ Watch.By ⟨limit, lastEvent⟩ (now + sleep - 1) := by
  have watched : Watch.By ⟨limit, lastEvent⟩ (now + sleep - 1) ↔
      0 < lastEvent ∧ 0 < limit ∧ lastEvent + limit ≤ now + sleep - 1 :=
    ⟨fun by' => ⟨by'.1, by'.2, by'.3⟩, fun ⟨set, limited, le⟩ => ⟨set, limited, le⟩⟩
  rw [watched, updateTimeout, elapsed]
  split
  · split <;> omega
  · omega

/-- A time that is only considered on a condition. -/
theorem le_ite_updateTimeout_iff (considered : Prop) [Decidable considered] (pos : 0 < sleep)
    (fits : limit ≤ longMax) :
    sleep ≤ (if considered then updateTimeout limit now lastEvent timeout else timeout) ↔
      sleep ≤ timeout ∧ ∀ watch ∈ (if considered then [⟨limit, lastEvent⟩] else [] : List Watch),
        ¬ watch.By (now + sleep - 1) := by
  split
  · rw [le_updateTimeout_iff pos fits, List.forall_mem_singleton]
  · exact ⟨fun le => ⟨le, nofun⟩, And.left⟩

/-- The session sleeps for some time if none of the times that it considers comes before. -/
theorem le_selectTimeout_iff {sleep : Int} (pos : 0 < sleep) :
    sleep ≤ selectTimeout role opts ses now ↔
      sleep ≤ kexRekeyTimeout ∧ ¬ Watched role opts ses (now + sleep - 1) := by
  have keepalive := opts.keepaliveSecs_lt
  have idle := opts.idleTimeoutSecs_lt
  have duration := opts.maxDurationSecs_lt
  have bound : (2 ^ 32 : Int) ≤ longMax := by decide
  have asked : ∀ {timeout : Int}, sleep ≤ (if ses.kexstate.needrekey then 0 else timeout) ↔
      ¬ ses.kexstate.needrekey ∧ sleep ≤ timeout := by
    intro timeout
    split
    case _ asked => exact ⟨fun le => absurd pos (by omega), fun both => absurd asked both.1⟩
    case _ unasked => exact ⟨fun le => ⟨unasked, le⟩, And.right⟩
  have clamped : ∀ {timeout : Int}, sleep ≤ max timeout 0 ↔ sleep ≤ timeout := by omega
  rw [selectTimeout, clamped, le_updateTimeout_iff pos (by omega),
    le_updateTimeout_iff pos (by omega), le_ite_updateTimeout_iff _ pos (by omega),
    le_ite_updateTimeout_iff _ pos (by decide), asked,
    le_ite_updateTimeout_iff _ pos (by decide), Watched, watches, not_or]
  simp only [not_exists, not_and, List.forall_mem_append, List.forall_mem_cons]
  constructor
  · rintro ⟨⟨⟨⟨⟨unasked, few, rekey⟩, auth⟩, keepalive⟩, idle⟩, duration⟩
    exact ⟨few, unasked, ⟨⟨rekey, auth⟩, keepalive⟩, idle, duration, nofun⟩
  · rintro ⟨few, unasked, ⟨⟨rekey, auth⟩, keepalive⟩, idle, duration, _⟩
    exact ⟨⟨⟨⟨⟨unasked, few, rekey⟩, auth⟩, keepalive⟩, idle⟩, duration⟩

theorem Timer.due_iff (timer : Timer) :
    timer.due role opts ses now ↔
      timer.enabled role opts ses ∧ timer.deadline opts ses ≤ now := by
  rw [Timer.due, Bool.and_eq_true, timer.passed_iff]

/-- The session wakes in time exactly if each time that comes before it would wake anyway is
not before all those that the sleep is computed from. -/
theorem timely_at_iff :
    Timely role opts ses now ↔
      ∀ timer : Timer, timer.enabled role opts ses → now < timer.deadline opts ses →
        timer.deadline opts ses < now + kexRekeyTimeout →
          Watched role opts ses (timer.deadline opts ses) := by
  -- the session would sleep over a deadline by a second at least
  have past : ∀ timer : Timer, now + (timer.deadline opts ses - now + 1) - 1 =
      timer.deadline opts ses := fun timer => by omega
  constructor
  · intro timely timer enabled future soon
    by_contra unwatched
    have sleeps : timer.deadline opts ses - now + 1 ≤ selectTimeout role opts ses now := by
      refine (le_selectTimeout_iff (by omega)).2 ⟨by omega, ?_⟩
      rwa [past]
    have due := timely.awake timer (timer.deadline opts ses) (by omega) (by omega)
      (timer.due_iff.2 ⟨enabled, Int.le_refl _⟩)
    have := (timer.due_iff.1 due).2
    omega
  · intro watched
    refine ⟨Int.le_max_right _ _, fun timer later after sleeping due => ?_⟩
    obtain ⟨enabled, reached⟩ := timer.due_iff.1 due
    refine timer.due_iff.2 ⟨enabled, ?_⟩
    by_contra early
    have sleeps : timer.deadline opts ses - now + 1 ≤ selectTimeout role opts ses now := by omega
    obtain ⟨few, unwatched⟩ := (le_selectTimeout_iff (by omega)).1 sleeps
    rw [past] at unwatched
    exact unwatched (watched timer enabled (by omega) (by omega))

variable (role opts ses) in
/-- **The session wakes in time exactly if each time that is acted on is not before all those
that the sleep is computed from**: at a given time as far as it comes before the session
would wake anyway, and always if that is so for each of them. -/
theorem timely_iff :
    (∀ now, Timely role opts ses now ↔
      ∀ timer : Timer, timer.enabled role opts ses → now < timer.deadline opts ses →
        timer.deadline opts ses < now + kexRekeyTimeout →
          Watched role opts ses (timer.deadline opts ses)) ∧
      ((∀ now, Timely role opts ses now) ↔
        ∀ timer : Timer, timer.enabled role opts ses →
          Watched role opts ses (timer.deadline opts ses)) := by
  refine ⟨fun now => timely_at_iff, fun timely timer enabled => ?_, fun watched now => ?_⟩
  · refine timely_at_iff.1 (timely (timer.deadline opts ses - 1)) timer enabled (by omega) ?_
    rw [kexRekeyTimeout]
    omega
  · exact timely_at_iff.2 fun timer enabled _ _ => watched timer enabled

end

/-! ## A session that has only been listening -/

/-- A keepalive is to be sent every minute. -/
def quietOpts : RunOpts where
  keepaliveSecs := 60
  idleTimeoutSecs := 0
  maxDurationSecs := 0
  keepaliveSecs_lt := by decide
  idleTimeoutSecs_lt := by decide
  maxDurationSecs_lt := by decide

/-- The last packet was sent at 50, and the last one was received at 100. -/
def quietSes : Ses Unit Unit :=
  { (commonSessionInit 40 () : Ses Unit Unit) with
    remoteident := some (ascii "SSH-2.0-other")
    authdone := true
    requirenext := 0
    lastPacketTimeAnySent := 50
    lastPacketTimeKeepaliveRecv := 100
    lastPacketTimeIdle := 100
    now := 105 }

/-- **At 105 it goes to sleep until 160, and the keepalive that is due at 110 is late.** -/
theorem timely_fails_for_keepalive :
    selectTimeout .server quietOpts quietSes quietSes.now = 55 ∧
      Timer.keepaliveIdle.due .server quietOpts quietSes quietSes.now = false ∧
      Timer.keepaliveIdle.due .server quietOpts quietSes 110 = true ∧
      ¬ Timely .server quietOpts quietSes quietSes.now := by
  have sleeps : selectTimeout .server quietOpts quietSes quietSes.now = 55 := by decide +kernel
  have before : Timer.keepaliveIdle.due .server quietOpts quietSes quietSes.now = false := by
    decide +kernel
  have late : Timer.keepaliveIdle.due .server quietOpts quietSes 110 = true := by decide +kernel
  refine ⟨sleeps, before, late, fun timely => ?_⟩
  have due := timely.awake .keepaliveIdle 110 (by decide) (by rw [sleeps]; decide) late
  rw [before] at due
  cases due

end Dropbear.Transport
