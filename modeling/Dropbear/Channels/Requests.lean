/-
# What requests do to a channel

One specification of `recv_msg_channel_request`, from which everything that is said about
requests is derived.  A request for a session starts the session's child, or it changes nothing
of the session but its terminal and its command.  Requests on other channels change nothing.  At
most one reply is sent, and none on a channel that has sent its CLOSE.
-/

import Dropbear.Channels.Frame

namespace Dropbear.Channels

open Program

/-- The command that the server or the key forces. -/
def Opts.forced (opts : Opts) : Option Bytes := opts.forcedCommand.or opts.pubkeyForcedCommand

/-- The requests for a command, and what their type says about it. -/
def CommandType (type : Bytes) (iscmd issubsys : Bool) : Prop :=
  cString type = ascii "shell" ∧ iscmd = false ∧ issubsys = false ∨
    cString type = ascii "exec" ∧ iscmd = true ∧ issubsys = false ∨
    cString type = ascii "subsystem" ∧ iscmd = true ∧ issubsys = true

/-- The request is one for a command. -/
def AsksCommand (payload : Buffer) : Prop :=
  ∃ type behind iscmd issubsys, bufGetstring payload = .ok (type, behind) ∧
    CommandType type iscmd issubsys

/-- No child is started. -/
structure ChanSess.Waits (opts : Opts) (before after : ChanSess) : Prop where
  pid : after.pid = before.pid
  exit : after.exit = before.exit
  cmd : after.cmd = none ∨ after.cmd = before.cmd
  original : opts.forced = none → after.originalCommand = before.originalCommand

theorem ChanSess.Waits.refl (opts : Opts) (chansess : ChanSess) : chansess.Waits opts chansess :=
  ⟨rfl, rfl, .inr rfl, fun _ => rfl⟩

/-- A child is started, with the process number and the exit status that the system gives. -/
structure ChanSess.Starts (opts : Opts) (outcome : Outcome) (requested : Option Bytes)
    (before after : ChanSess) : Prop where
  idle : before.pid = 0
  pid : 0 < after.pid
  given : outcome.spawned.map (·.pid.1) = some after.pid ∨ outcome.forked.map (·.1) = some after.pid
  exit : after.exit = before.exit ∨ outcome.lastexit = some after.exit
  cmd : after.cmd = (forceCommand opts { before with cmd := requested }).cmd
  original : after.originalCommand =
    (forceCommand opts { before with cmd := requested }).originalCommand

/-- What a request for a session makes of its channel. -/
inductive Answers (opts : Opts) (outcome : Outcome) (type : Bytes) (payload : Buffer)
    (channel : Channel) (chansess : ChanSess) : Channel → Prop where
  | waits {after : ChanSess} (waits : chansess.Waits opts after) :
      Answers opts outcome type payload channel chansess { channel with typedata := some after }
  | starts {after : ChanSess} {iscmd issubsys : Bool} {requested : Option Bytes}
      (kind : CommandType type iscmd issubsys)
      (read : readCommand payload chansess iscmd issubsys = .ok (some requested))
      (starts : chansess.Starts opts outcome requested after) (writefd readfd errfd : Fd) :
      Answers opts outcome type payload channel chansess
        { channel with
          writefd := writefd
          readfd := readfd
          errfd := errfd
          bidirFd := false
          typedata := some after }

/-- How a request may end the process. -/
def RequestFailure (failure : Exit) : Prop :=
  failure.OfBuffer ∨ failure ∈
    [.exit "Multiple pty requests", .exit "getpwnam failed after succeeding previously",
      .exit "Bad term mode string", .assertion "chansess != NULL"]

/-- What a request makes of the channel. -/
def Channel.Requested (opts : Opts) (payload : Buffer) (outcome : Outcome)
    (channel channel' : Channel) : Prop :=
  channel' = channel ∨ channel.type = .svrchansess ∧ ∃ chansess type behind wantreply rest,
    channel.typedata = some chansess ∧ bufGetstring payload = .ok (type, behind) ∧
      bufGetbool behind = .ok (wantreply, rest) ∧
        Answers opts outcome type rest channel chansess channel'

/-- The channel may have changed, and a reply may have been sent. -/
inductive Served (opts : Opts) (payload : Buffer) (outcome : Outcome) (slot : Slot)
    (channel : Channel) : Slot → Prop where
  | silently {channel' : Channel} (requested : channel.Requested opts payload outcome channel') :
      Served opts payload outcome slot channel { slot with channel := some channel' }
  | replying {channel' : Channel} (requested : channel.Requested opts payload outcome channel')
      (notClosed : channel'.sentClose = false) {reply : Message}
      (isReply : reply = .success channel'.remotechan ∨ reply = .failure channel'.remotechan) :
      Served opts payload outcome slot channel
        { slot with
          channel := some channel'
          sent := slot.sent ++ [reply] }

section

variable {opts : Opts} {outcome : Outcome} {type : Bytes} {payload : Buffer} {slot : Slot}
  {channel : Channel} {chansess : ChanSess}

/-- Forced commands come before the one that was asked for. -/
theorem forceCommand_eq (chansess : ChanSess) :
    forceCommand opts chansess =
      match opts.forced with
      | some forced =>
        { chansess with
          originalCommand := some (chansess.cmd.getD [])
          cmd := some forced }
      | none => chansess := by
  rw [forceCommand, Opts.forced]
  cases opts.forcedCommand with
  | some forced => rfl
  | none => cases opts.pubkeyForcedCommand <;> rfl

/-- A request that is refused forgets the command, and what it was forced to. -/
theorem waits_refused (requested : Option Bytes) :
    chansess.Waits opts
      { forceCommand opts { chansess with cmd := requested } with cmd := none } := by
  rw [forceCommand_eq]
  cases forced : opts.forced with
  | some command => exact ⟨rfl, rfl, .inl rfl, fun none => nomatch forced.symm.trans none⟩
  | none => exact ⟨rfl, rfl, .inl rfl, fun _ => rfl⟩

theorem setChansess_eq (present : slot.channel = some channel) (chansess : ChanSess) :
    setChansess chansess slot =
      .ok () { slot with channel := some { channel with typedata := some chansess } } := by
  rw [setChansess, theChannel_bind present]
  rfl

/-- The slot with the channel as a request may leave it. -/
def Slot.Answered (opts : Opts) (outcome : Outcome) (type : Bytes) (payload : Buffer) (slot : Slot)
    (channel : Channel) (chansess : ChanSess) (after : Slot) : Prop :=
  ∃ channel', Answers opts outcome type payload channel chansess channel' ∧
    after = { slot with channel := some channel' }

variable {failed : Exit → Slot → Prop}

theorem answered_setChansess (present : slot.channel = some channel) {after : ChanSess}
    (waits : chansess.Waits opts after) (good : Bool) :
    Ends (fun _ => slot.Answered opts outcome type payload channel chansess) failed
      ((do setChansess after; pure good : ChanM Bool) slot) := by
  rw [EStateM.bind_of_ok (setChansess_eq present after)]
  exact ⟨_, .waits waits, rfl⟩

theorem answered_same (present : slot.channel = some channel)
    (typedata : channel.typedata = some chansess) :
    slot.Answered opts outcome type payload channel chansess slot := by
  refine ⟨_, .waits (.refl opts chansess), ?_⟩
  rw [← typedata, ← present]

variable {iscmd issubsys : Bool}

theorem ends_noptycommand (present : slot.channel = some channel) {requested : Option Bytes}
    (kind : CommandType type iscmd issubsys)
    (read : readCommand payload chansess iscmd issubsys = .ok (some requested))
    (idle : chansess.pid = 0) :
    Ends (fun _ => slot.Answered opts outcome type payload channel chansess) failed
      (noptycommand (forceCommand opts { chansess with cmd := requested }) outcome slot) := by
  have kept : (forceCommand opts { chansess with cmd := requested }).exit = chansess.exit :=
    (waits_refused requested).exit
  rw [noptycommand]
  cases spawn : outcome.spawned with
  | none => exact answered_setChansess present (waits_refused requested) _
  | some spawned =>
    have starts : ∀ exit, exit = chansess.exit ∨ outcome.lastexit = some exit →
        chansess.Starts opts outcome requested
          { forceCommand opts { chansess with cmd := requested } with
            pid := spawned.pid.1
            exit := exit } :=
      fun exit known => ⟨idle, spawned.pid.2, .inl (by rw [spawn]; rfl), known, rfl, rfl⟩
    dsimp only
    rw [theChannel_bind present]
    refine ⟨_, .starts kind read (starts _ ?_) _ _ _, rfl⟩
    split
    case _ lastexit isLast =>
      split
      · exact .inr isLast
      · exact .inl kept
    case _ => exact .inl kept

theorem ptycommand_cases (chansess : ChanSess) (outcome : Outcome) :
    ptycommand chansess outcome = (do setChansess { chansess with cmd := none }; pure false) ∨
      ∃ master, ∃ pid : Positive, outcome.forked = some pid ∧ ptycommand chansess outcome = (do
        let channel ← theChannel
        setChannel
          { channel with
            writefd := .fd master
            readfd := .fd master
            bidirFd := false
            typedata := some { chansess with pid := pid.1 } }
        pure true) := by
  rw [ptycommand]
  split
  case _ master pid _ _ forked => exact .inr ⟨master, pid, forked, rfl⟩
  case _ => exact .inl rfl

theorem ends_ptycommand (present : slot.channel = some channel) {requested : Option Bytes}
    (kind : CommandType type iscmd issubsys)
    (read : readCommand payload chansess iscmd issubsys = .ok (some requested))
    (idle : chansess.pid = 0) :
    Ends (fun _ => slot.Answered opts outcome type payload channel chansess) failed
      (ptycommand (forceCommand opts { chansess with cmd := requested }) outcome slot) := by
  rcases ptycommand_cases (forceCommand opts { chansess with cmd := requested }) outcome with
    refused | ⟨master, pid, forked, runs⟩
  · rw [refused]
    exact answered_setChansess present (waits_refused requested) _
  · rw [runs, theChannel_bind present]
    have starts : chansess.Starts opts outcome requested
        { forceCommand opts { chansess with cmd := requested } with pid := pid.1 } :=
      ⟨idle, pid.2, .inr (by rw [forked]; rfl), .inl (waits_refused requested).exit, rfl, rfl⟩
    exact ⟨_, .starts kind read starts _ _ channel.errfd, rfl⟩

theorem failsOnly_requestedCommand (payload : Buffer) (earlier : Option Bytes) :
    FailsOnly Exit.OfBuffer (requestedCommand payload earlier) := by
  cases earlier with
  | some cmd => exact .ok _
  | none =>
    apply (failsOnly_bufGetstring payload).bind
    intro read _
    exact .ok _

theorem failsOnly_readCommand (payload : Buffer) (chansess : ChanSess) (iscmd issubsys : Bool) :
    FailsOnly Exit.OfBuffer (readCommand payload chansess iscmd issubsys) := by
  rw [readCommand]
  split
  · exact .ok _
  · apply (failsOnly_requestedCommand payload chansess.cmd).bind
    rintro ⟨cmd, cmdlen⟩ _
    dsimp only
    repeat' split
    all_goals exact .ok _

/-- The request is answered, or it ends the process. -/
abbrev EndsAnswered (opts : Opts) (outcome : Outcome) (type : Bytes) (payload : Buffer)
    (slot : Slot) (channel : Channel) (chansess : ChanSess) (run : ChanM Bool) : Prop :=
  Ends (fun _ => slot.Answered opts outcome type payload channel chansess)
    (fun failure after => slot.Answered opts outcome type payload channel chansess after ∧
      RequestFailure failure) (run slot)

theorem ends_sessioncommand (present : slot.channel = some channel)
    (typedata : channel.typedata = some chansess) (kind : CommandType type iscmd issubsys) :
    EndsAnswered opts outcome type payload slot channel chansess
      (sessioncommand opts payload iscmd issubsys outcome chansess) := by
  have same : slot.Answered opts outcome type payload channel chansess slot :=
    answered_same present typedata
  rw [EndsAnswered, sessioncommand]
  split
  · exact same
  case _ busy =>
    have idle : chansess.pid = 0 := not_not.1 busy
    apply ends_fromResult
    · intro failure failed
      exact ⟨same, .inl (failsOnly_readCommand _ _ _ _ failure failed)⟩
    · intro command read
      cases command with
      | none =>
        have refused : chansess.Waits opts { chansess with cmd := none } :=
          ⟨rfl, rfl, .inl rfl, fun _ => rfl⟩
        exact answered_setChansess present refused _
      | some requested =>
        dsimp only
        split
        · exact ends_noptycommand present kind read idle
        · exact ends_ptycommand present kind read idle

theorem failsOnly_readWindowSize (payload : Buffer) :
    FailsOnly RequestFailure (readWindowSize payload) := by
  have int : ∀ buf, FailsOnly RequestFailure (bufGetint buf) := fun buf failure failed =>
    .inl (failsOnly_bufGetint buf failure failed)
  exact (int _).bind fun _ _ => (int _).bind fun _ _ => (int _).bind fun _ _ =>
    (int _).bind fun _ _ => .ok _

theorem failsOnly_readModes (n : Nat) (payload : Buffer) :
    FailsOnly Exit.OfBuffer (readModes n payload) := by
  induction n generalizing payload with
  | zero => exact .ok _
  | succ n ih =>
    apply (failsOnly_bufGetbyte payload).bind
    rintro ⟨opcode, behind⟩ _
    dsimp only
    split
    · exact (failsOnly_bufGetint behind).bind fun _ _ => ih _
    · exact .ok _

theorem failsOnly_readTerminal (payload : Buffer) (terminal : Terminal) :
    FailsOnly RequestFailure (readTerminal payload terminal) := by
  rw [readTerminal]
  split
  · exact .error (.inr (by decide))
  · apply (failsOnly_readWindowSize payload).bind
    intro behind _
    split
    · intro failure failed
      rcases Except.bind_eq_error.1 failed with failed | ⟨⟨len, rest⟩, _, failed⟩
      · exact .inl (failsOnly_bufGetint _ _ failed)
      · dsimp only at failed
        split at failed
        · cases failed
          exact .inr (by decide)
        · exact .inl (failsOnly_readModes _ _ _ failed)
    · exact .ok _

theorem ends_sessionpty (present : slot.channel = some channel)
    (typedata : channel.typedata = some chansess) :
    EndsAnswered opts outcome type payload slot channel chansess
      (sessionpty opts payload outcome chansess) := by
  have same : slot.Answered opts outcome type payload channel chansess slot :=
    answered_same present typedata
  rw [EndsAnswered, sessionpty]
  split
  · exact same
  · apply ends_fromResult
    · intro failure failed
      exact ⟨same, .inl (failsOnly_bufGetstring payload failure failed)⟩
    · rintro ⟨term, behind⟩ _
      have entered : chansess.Waits opts { chansess with term := some term } :=
        ⟨rfl, rfl, .inr rfl, fun _ => rfl⟩
      have named : slot.Answered opts outcome type payload channel chansess
          { slot with
            channel := some { channel with typedata := some { chansess with term := some term } } } :=
        ⟨_, .waits entered, rfl⟩
      dsimp only
      rw [EStateM.bind_of_ok (setChansess_eq present _)]
      split
      · exact named
      · split
        · exact ⟨named, .inr (by decide)⟩
        · cases outcome.terminal with
          | none => exact named
          | some terminal =>
            dsimp only
            rw [EStateM.bind_of_ok (setChansess_eq rfl _)]
            have allocated : chansess.Waits opts
                { chansess with
                  term := some term
                  master := some terminal.master
                  tty := true } := { entered with }
            apply ends_fromResult
            · intro failure failed
              exact ⟨⟨_, .waits allocated, rfl⟩, failsOnly_readTerminal _ _ failure failed⟩
            · intro _ _
              exact ⟨_, .waits allocated, rfl⟩

theorem failsOnly_readX11 (payload : Buffer) : FailsOnly RequestFailure (readX11 payload) := by
  have string : ∀ buf, FailsOnly Exit.OfBuffer (bufGetstring buf) := failsOnly_bufGetstring
  have reads : FailsOnly Exit.OfBuffer (readX11 payload) :=
    (failsOnly_bufGetbool payload).bind fun _ _ => (string _).bind fun _ _ =>
      (string _).bind fun _ _ => (failsOnly_bufGetint _).bind fun _ _ => .ok _
  exact fun failure failed => .inl (reads failure failed)

theorem ends_dispatchRequest (present : slot.channel = some channel)
    (typedata : channel.typedata = some chansess) :
    EndsAnswered opts outcome type payload slot channel chansess
      (dispatchRequest opts type payload outcome chansess) := by
  have same : slot.Answered opts outcome type payload channel chansess slot :=
    answered_same present typedata
  -- the requests that only read
  have reading : ∀ {α : Type} {read : Except Exit α} (good : Bool), FailsOnly RequestFailure read →
      EndsAnswered opts outcome type payload slot channel chansess
        (do let _ ← fromResult read; pure good) := fun _ fails =>
    ends_fromResult (fun failure failed => ⟨same, fails failure failed⟩) fun _ _ => same
  have other : ∀ {α : Type} {read : Except Exit α}, FailsOnly RequestFailure read →
      EndsAnswered opts outcome type payload slot channel chansess (otherRequest read outcome) := by
    intro α read fails
    rw [otherRequest]
    cases outcome.other with
    | none => exact same
    | some good => exact reading good fails
  rw [EndsAnswered, dispatchRequest]
  split
  · rw [sessionwinchange]
    split
    · exact same
    · exact reading true (failsOnly_readWindowSize payload)
  · split
    case _ shell => exact ends_sessioncommand present typedata (.inl ⟨shell, rfl, rfl⟩)
    case _ =>
      split
      · exact ends_sessionpty present typedata
      · split
        case _ exec => exact ends_sessioncommand present typedata (.inr (.inl ⟨exec, rfl, rfl⟩))
        case _ =>
          split
          case _ subsystem =>
            exact ends_sessioncommand present typedata (.inr (.inr ⟨subsystem, rfl, rfl⟩))
          case _ =>
            split
            · exact other (failsOnly_readX11 payload)
            · split
              · exact other (.ok _)
              · split
                · exact other fun failure failed => .inl (failsOnly_bufGetstring _ _ failed)
                · exact same

/-- The reply, unless the channel has been closed. -/
theorem served_reply {channel' : Channel}
    (requested : channel.Requested opts payload outcome channel') (wantreply good : Bool) :
    Ends (fun _ => Served opts payload outcome slot channel) failed
      ((if wantreply then if good then sendMsgChannelSuccess else sendMsgChannelFailure
        else pure () : ChanM Unit) { slot with channel := some channel' }) := by
  have silent : Served opts payload outcome slot channel { slot with channel := some channel' } :=
    .silently requested
  split
  · split
    · rw [sendMsgChannelSuccess, theChannel_bind rfl]
      split
      · exact silent
      case _ notClosed => exact .replying requested (Bool.eq_false_iff.2 notClosed) (.inl rfl)
    · rw [sendMsgChannelFailure, theChannel_bind rfl]
      split
      · exact silent
      case _ notClosed => exact .replying requested (Bool.eq_false_iff.2 notClosed) (.inr rfl)
  · exact silent

theorem served_same (present : slot.channel = some channel) :
    Served opts payload outcome slot channel slot := by
  have same : Served opts payload outcome slot channel { slot with channel := some channel } :=
    .silently (.inl rfl)
  rwa [← present] at same

/-- A request changes the channel as it says, and is replied to once at most. -/
theorem ends_recvMsgChannelRequest (present : slot.channel = some channel) {found : Channel}
    (sameType : found.type = channel.type) :
    Ends (fun _ => Served opts payload outcome slot channel)
      (fun failure after => Served opts payload outcome slot channel after ∧ RequestFailure failure)
      (recvMsgChannelRequest opts payload outcome found slot) := by
  have same : Served opts payload outcome slot channel slot := served_same present
  have refuses : ∀ wantreply : Bool, Ends (fun _ => Served opts payload outcome slot channel)
      (fun failure after => Served opts payload outcome slot channel after ∧ RequestFailure failure)
      ((if wantreply then sendMsgChannelFailure else pure () : ChanM Unit) slot) := by
    intro wantreply
    have replies := fun failed => @served_reply opts outcome payload slot channel failed channel
      (.inl rfl) wantreply false
    rw [← present] at replies
    exact replies _
  have fails : ∀ {α : Type} {computed : Except Exit α}, FailsOnly Exit.OfBuffer computed →
      ∀ failure, computed = .error failure →
        Served opts payload outcome slot channel slot ∧ RequestFailure failure :=
    fun only failure failed => ⟨same, .inl (only failure failed)⟩
  rw [recvMsgChannelRequest, sameType]
  cases type : channel.type with
  | svrchansess =>
    apply ends_fromResult (fails (failsOnly_bufGetstring payload))
    rintro ⟨kind, behind⟩ isKind
    apply ends_fromResult (fails (failsOnly_bufGetbool behind))
    rintro ⟨wantreply, rest⟩ isReply
    have answers : Ends (fun _ after => ∃ channel', channel.Requested opts payload outcome channel' ∧
        after = { slot with channel := some channel' })
        (fun failure after => Served opts payload outcome slot channel after ∧
          RequestFailure failure) (answerRequest opts kind rest outcome slot) := by
      rw [answerRequest]
      split
      · exact ⟨channel, .inl rfl, by rw [← present]⟩
      · rw [theChannel_bind present]
        cases typedata : channel.typedata with
        | none => exact ⟨same, .inr (by decide)⟩
        | some chansess =>
          have all : ∀ channel', Answers opts outcome kind rest channel chansess channel' →
              channel.Requested opts payload outcome channel' :=
            fun channel' answers => .inr ⟨type, chansess, kind, behind, wantreply, rest,
              typedata, isKind, isReply, answers⟩
          refine (ends_dispatchRequest present typedata).imp ?_ ?_
          · rintro _ _ ⟨channel', answers, rfl⟩
            exact ⟨channel', all channel' answers, rfl⟩
          · rintro failure _ ⟨⟨channel', answers, rfl⟩, failed⟩
            exact ⟨.silently (all channel' answers), failed⟩
    apply answers.bind
    rintro good _ ⟨channel', requested, rfl⟩
    exact served_reply requested wantreply good
  | clichansess =>
    apply ends_fromResult (fails (failsOnly_bufGetstring payload))
    rintro ⟨kind, behind⟩ _
    apply ends_fromResult (fails (failsOnly_bufGetbool behind))
    rintro ⟨wantreply, rest⟩ _
    dsimp only
    split
    · apply ends_fromResult (fails (failsOnly_bufGetint rest))
      intro _ _
      exact same
    · split
      · exact same
      · exact refuses wantreply
  | _ =>
    apply ends_fromResult (fails (failsOnly_bufEatstring payload))
    intro behind _
    apply ends_fromResult (fails (failsOnly_bufGetbool behind))
    rintro ⟨wantreply, rest⟩ _
    exact refuses wantreply

/-! ## What the view sees of it -/

variable {view : View} {after : Slot}

theorem Channel.Requested.fits {channel' : Channel}
    (requested : channel.Requested opts payload outcome channel') (fits : channel.Fits view)
    (started : view.type = .svrchansess → view.connPending = false) : channel'.Fits view := by
  rcases requested with rfl | ⟨session, _, _, _, _, _, _, _, _, answers⟩
  · exact fits
  · cases answers with
    | waits _ => exact fits.congr rfl
    | starts _ _ _ _ _ _ => exact fits.install (started (fits.type.symm.trans session)) rfl

theorem Served.shows (served : Served opts payload outcome slot channel after)
    (fits : channel.Fits view) (started : view.type = .svrchansess → view.connPending = false)
    (shows : slot.Shows view) : after.Shows view := by
  have silent : ∀ channel', channel.Requested opts payload outcome channel' →
      Slot.Shows { slot with channel := some channel' } view :=
    fun channel' requested => { shows with present := ⟨channel', rfl, requested.fits fits started⟩ }
  cases served with
  | silently requested => exact silent _ requested
  | replying requested _ isReply =>
    rcases isReply with rfl | rfl
    · exact (quiet_shows view).send _ _ rfl rfl (silent _ requested)
    · exact (quiet_shows view).send _ _ rfl rfl (silent _ requested)

theorem not_windowFailure_of_requestFailure {failure : Exit} (failed : RequestFailure failure) :
    ¬ WindowFailure failure := by
  rcases failed with ofBuffer | listed
  · exact not_windowFailure_of_ofBuffer ofBuffer
  · revert failure
    decide

theorem keeps_recvMsgChannelRequest (started : view.type = .svrchansess → view.connPending = false)
    (payload : Buffer) (outcome : Outcome) (fits : channel.Fits view) :
    Keeps (·.Shows view) (recvMsgChannelRequest opts payload outcome channel) := by
  intro slot shows
  obtain ⟨there, present, fits'⟩ := shows.present
  refine (ends_recvMsgChannelRequest present (fits.type.trans fits'.type.symm)).imp ?_ ?_
  · intro _ after served
    exact served.shows fits' started shows
  · rintro failure after ⟨served, failed⟩
    exact ⟨served.shows fits' started shows, not_windowFailure_of_requestFailure failed⟩

end

end Dropbear.Channels
