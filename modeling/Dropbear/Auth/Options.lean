/-
# The options of an authorized key

`struct PubKeyOptions` of `auth.h`, and the functions of
`svr-authpubkeyoptions.c` that ask whether the options in force permit
something.  Without options everything is permitted.  A command that the options
force replaces the one the client asked for.
-/

import Dropbear.Program.Bytes

namespace Dropbear.Auth

open Program

/-- `UINT_MAX`, in place of a port. -/
def pubkeyOptionsAnyPort : Nat := 2 ^ 32 - 1

/-- A destination of 'permitopen', or a port of 'permitlisten', which has no host. -/
structure PermitTCPFwdEntry where
  host : Option Bytes
  port : Nat
  deriving DecidableEq, Repr

/-- The options of an accepted line.  As it is allocated all flags are clear and
all pointers are null. -/
structure PubKeyOptions where
  noPortForwardingFlag : Bool := false
  noAgentForwardingFlag : Bool := false
  noX11ForwardingFlag : Bool := false
  noPtyFlag : Bool := false
  forcedCommand : Option Bytes := none
  permitOpenDestinations : Option (List PermitTCPFwdEntry) := none
  permitListens : Option (List PermitTCPFwdEntry) := none
  noTouchRequiredFlag : Bool := false
  verifyRequiredFlag : Bool := false
  infoEnv : Option Bytes := none
  deriving DecidableEq, Repr

/-! ## What the options in force permit -/

def svrPubkeyAllowsAgentfwd (options : Option PubKeyOptions) : Bool :=
  !options.any (·.noAgentForwardingFlag)

def svrPubkeyAllowsTcpfwd (options : Option PubKeyOptions) : Bool :=
  !options.any (·.noPortForwardingFlag)

def svrPubkeyHasForcedCommand (options : Option PubKeyOptions) : Bool :=
  options.any (·.forcedCommand.isSome)

def svrPubkeyAllowsX11fwd (options : Option PubKeyOptions) : Bool :=
  !options.any (·.noX11ForwardingFlag)

def svrPubkeyAllowsPty (options : Option PubKeyOptions) : Bool := !options.any (·.noPtyFlag)

/-- Whether one of the entries, if there are entries, fits. -/
def anyPermits (entries : Option (List PermitTCPFwdEntry)) (fits : PermitTCPFwdEntry → Bool) :
    Bool :=
  match entries with
  | none => true
  | some entries => entries.any fits

def svrPubkeyAllowsLocalTcpfwd (options : Option PubKeyOptions) (host : Bytes) (port : Nat) :
    Bool :=
  anyPermits (options.bind (·.permitOpenDestinations)) fun entry =>
    entry.host = some host ∧ (entry.port = pubkeyOptionsAnyPort ∨ entry.port = port)

/-- There are no host restrictions. -/
def svrPubkeyAllowsRemoteTcpfwd (options : Option PubKeyOptions) (port : Nat) : Bool :=
  anyPermits (options.bind (·.permitListens)) fun entry => entry.port = port

/-- The command to run and the one that was asked for, where the options in force
have a command. -/
def svrPubkeySetForcedCommand (options : Option PubKeyOptions) (cmd original : Option Bytes) :
    Option Bytes × Option Bytes :=
  match options.bind (·.forcedCommand) with
  | none => (cmd, original)
  | some forced => (some forced, some (cmd.getD []))

/-- The options are in force: every question is answered as they say. -/
structure Enforced (inForce : Option PubKeyOptions) (options : PubKeyOptions) : Prop where
  agentfwd : svrPubkeyAllowsAgentfwd inForce = !options.noAgentForwardingFlag
  tcpfwd : svrPubkeyAllowsTcpfwd inForce = !options.noPortForwardingFlag
  x11fwd : svrPubkeyAllowsX11fwd inForce = !options.noX11ForwardingFlag
  pty : svrPubkeyAllowsPty inForce = !options.noPtyFlag
  hasCommand : svrPubkeyHasForcedCommand inForce = options.forcedCommand.isSome
  command : ∀ forced, options.forcedCommand = some forced → ∀ cmd original,
    (svrPubkeySetForcedCommand inForce cmd original).1 = some forced
  localTcpfwd : ∀ entries, options.permitOpenDestinations = some entries → ∀ host port,
    svrPubkeyAllowsLocalTcpfwd inForce host port → ∃ entry ∈ entries,
      entry.host = some host ∧ (entry.port = pubkeyOptionsAnyPort ∨ entry.port = port)
  remoteTcpfwd : ∀ entries, options.permitListens = some entries → ∀ port,
    svrPubkeyAllowsRemoteTcpfwd inForce port → ∃ entry ∈ entries, entry.port = port

/-- Stored options are in force. -/
theorem enforced_some (options : PubKeyOptions) : Enforced (some options) options where
  agentfwd := rfl
  tcpfwd := rfl
  x11fwd := rfl
  pty := rfl
  hasCommand := rfl
  command forced set cmd original := by simp [svrPubkeySetForcedCommand, set]
  localTcpfwd entries set host port permitted := by
    simpa [svrPubkeyAllowsLocalTcpfwd, anyPermits, set] using permitted
  remoteTcpfwd entries set port permitted := by
    simpa [svrPubkeyAllowsRemoteTcpfwd, anyPermits, set] using permitted

end Dropbear.Auth
