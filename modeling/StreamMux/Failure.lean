import StreamMux.Duration
import StreamMux.Frame.Basic
import StreamMux.Frame.Error
import StreamMux.IoError

/-!
Why a request, a stream or a whole connection fails. A failure can be sent to the peer in an
ERROR frame as a code and a message, and one that is received is turned back into a failure.
-/
namespace StreamMux

/-- A cause of failure, with the words that came with it. -/
inductive Failure where
  | application (message : String)
  | rejected (message : String)
  /-- The peer reports the stream as canceled. -/
  | canceled (message : String)
  | invalid (message : String)
  | custom (code : UInt32) (message : String)
  | invalidSetup (message : String)
  | unsupportedSetup (message : String)
  | rejectedSetup (message : String)
  | rejectedResume (message : String)
  | connection (message : String)
  | closedByPeer (message : String)
  | closed
  /-- The request was given up on this side. -/
  | cancelled
  | keepAliveTimeout (limit : Duration)
  | protocol (message : String)
  | transport (error : IoError)
  deriving DecidableEq, Repr

namespace Failure

/-- The failure that an ERROR frame describes. -/
def ofErrorFrame (code : ErrorCode) (message : String) : Failure :=
  match code with
  | .invalidSetup => invalidSetup message
  | .unsupportedSetup => unsupportedSetup message
  | .rejectedSetup => rejectedSetup message
  | .rejectedResume => rejectedResume message
  | .connectionError => connection message
  | .connectionClose => closedByPeer message
  | .applicationError => application message
  | .rejected => rejected message
  | .canceled => canceled message
  | .invalid => invalid message
  | .custom code => custom code message

/-- A frame that could not be written or read breaks the protocol. -/
def ofFrameError (e : FrameError) : Failure := protocol e.message

/-- The code under which a failure is sent. -/
def code : Failure → ErrorCode
  | application _ => .applicationError
  | rejected _ => .rejected
  | canceled _ | cancelled => .canceled
  | invalid _ => .invalid
  | custom code _ => .custom code
  | invalidSetup _ => .invalidSetup
  | unsupportedSetup _ => .unsupportedSetup
  | rejectedSetup _ => .rejectedSetup
  | rejectedResume _ => .rejectedResume
  | closedByPeer _ | closed => .connectionClose
  | connection _ | keepAliveTimeout _ | protocol _ | transport _ => .connectionError

/-- The whole text, for people. -/
def text : Failure → String
  | application message => "application error: " ++ message
  | rejected message => "rejected: " ++ message
  | canceled message => "canceled: " ++ message
  | invalid message => "invalid request: " ++ message
  | custom code message => "custom error " ++ hexText code.toNat ++ ": " ++ message
  | invalidSetup message => "invalid setup: " ++ message
  | unsupportedSetup message => "unsupported setup: " ++ message
  | rejectedSetup message => "rejected setup: " ++ message
  | rejectedResume message => "rejected resume: " ++ message
  | connection message => "connection error: " ++ message
  | closedByPeer message => "connection closed by peer: " ++ message
  | closed => "connection closed"
  | cancelled => "request cancelled"
  | keepAliveTimeout limit => "no keepalive received within " ++ limit.text
  | protocol message => "protocol error: " ++ message
  | transport error => "transport error: " ++ error.text

/-- The message that an ERROR frame carries: what the failure was made with, else its text. -/
def message : Failure → String
  | application message | rejected message | canceled message | invalid message
  | custom _ message | invalidSetup message | unsupportedSetup message | rejectedSetup message
  | rejectedResume message | connection message | closedByPeer message | protocol message => message
  | failure => failure.text

/-- The whole connection is gone. -/
def isConnectionError : Failure → Bool
  | invalidSetup _ | unsupportedSetup _ | rejectedSetup _ | rejectedResume _ | connection _
  | closedByPeer _ | closed | keepAliveTimeout _ | protocol _ | transport _ => true
  | _ => false

/-- The ERROR frame on stream 0 that ends a connection. -/
def closingFrame (f : Failure) : Frame := .error 0 f.code f.message

/-- The ERROR frame that fails one stream. Codes that only stand on stream 0 give way to the
application's. -/
def streamFrame (id : UInt32) (f : Failure) : Frame :=
  .error id (if f.code.isConnectionLevel then .applicationError else f.code) f.message

end Failure

/-- What flows on a stream: a payload, or the failure that ends it. -/
abbrev Item := Except Failure Payload

/-- The answer of something that may not be there yet. -/
inductive Poll (α : Type) where
  | pending
  | ready (value : α)
  deriving DecidableEq, Repr

end StreamMux
