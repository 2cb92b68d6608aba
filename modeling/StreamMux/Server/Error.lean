import StreamMux.Settings
import StreamMux.Failure

/-!
Why a server, or one of its connections, ends, and the code under which a peer learns of it.
-/
namespace StreamMux

/-- Why a server, or one of its connections, ends. -/
inductive ServerError where
  | io (error : IoError)
  | failure (cause : Failure)
  | settings (error : SettingsError)
  /-- The peer did not announce itself in time. -/
  | setupTimeout (limit : Duration)
  | setupRejected (cause : Failure)
  | shuttingDown
  deriving DecidableEq, Repr

namespace ServerError

def text : ServerError → String
  | io error => "I/O error: " ++ error.text
  | failure cause => cause.text
  | settings error => "configuration error: " ++ error.text
  | setupTimeout limit => "no SETUP received within " ++ limit.text
  | setupRejected cause => "setup rejected: " ++ cause.text
  | shuttingDown => "server shutting down"

def code : ServerError → ErrorCode
  | failure cause | setupRejected cause => cause.code
  | setupTimeout _ => .invalidSetup
  | shuttingDown => .connectionClose
  | io _ | settings _ => .connectionError

end ServerError
end StreamMux
