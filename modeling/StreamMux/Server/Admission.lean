import StreamMux.Application
import StreamMux.Frame.Decode
import StreamMux.Settings

/-!
How a server decides on a new connection. The first frame has to be a SETUP frame of the version
that is spoken here, without resumption and without leases; then the application's acceptor has
the last word. A peer that is turned away learns why in an ERROR frame.
-/
namespace StreamMux

/-- The major version of the protocol that is spoken here. -/
def majorVersion : UInt16 := 1

/-- What is wrong with a SETUP frame, if anything is. -/
def Setup.objection? (s : Setup) : Option Failure :=
  if s.major ≠ majorVersion then
    some (.unsupportedSetup
      ("unsupported version " ++ toString s.major.toNat ++ "." ++ toString s.minor.toNat))
  else if s.resumeToken.isSome then some (.unsupportedSetup "resumption is not supported")
  else if s.lease then some (.unsupportedSetup "lease is not supported")
  else none

/-- The failure of a first frame that cannot be decoded. -/
def FrameError.asSetupFailure : FrameError → Failure
  | .unsupportedType .resume _ => .rejectedResume "resumption is not supported"
  | e => .invalidSetup e.message

/-- Checks the first frame of a connection. -/
def validateSetup (bytes : ByteArray) : Except Failure Setup :=
  match Frame.decode bytes with
  | .error e => .error e.asSetupFailure
  | .ok (.setup s) =>
    match s.objection? with
    | some failure => .error failure
    | none => .ok s
  | .ok frame => .error (.invalidSetup ("expected SETUP, got " ++ frame.type.name))

/-- Finds the application for a peer, or turns the peer away. -/
abbrev Acceptor := Setup → Except Failure Application

/-- Accepts everyone, and echoes. -/
def Acceptor.echo : Acceptor := fun _ => .ok (Application.echo Application.defaultRepeats)

/-- Checks the first frame and asks the acceptor, whose refusals all look alike to the peer. -/
def admission (acceptor : Acceptor) (bytes : ByteArray) : Except Failure (Setup × Application) := do
  let setup ← validateSetup bytes
  match acceptor setup with
  | .ok application => return (setup, application)
  | .error failure => throw (.rejectedSetup failure.message)

/-- The settings of the connection to a peer that announced itself. -/
def Setup.connectionConfig (s : Setup) (prefetch : UInt32) : ConnectionConfig :=
  (({} : ConnectionConfig).withKeepAlive s.keepAlive s.lifetime).withPrefetch prefetch

end StreamMux
