import StreamMux.Failure

/-!
Why a client's operation fails, and whether trying again on a fresh connection may help.
-/
namespace StreamMux

/-- Why an operation of a client fails. -/
inductive ClientError where
  | io (error : IoError)
  | failure (cause : Failure)
  | notConnected
  | alreadyConnected
  | timeout
  | config (message : String)
  deriving DecidableEq, Repr

namespace ClientError

def text : ClientError → String
  | io error => "I/O error: " ++ error.text
  | failure cause => cause.text
  | notConnected => "not connected"
  | alreadyConnected => "already connected"
  | timeout => "connect timeout"
  | config message => "invalid configuration: " ++ message

/-- A fresh connection may help. -/
def isRetryable : ClientError → Bool
  | io _ | timeout => true
  | failure (.rejected _) => true
  | failure cause => cause.isConnectionError
  | notConnected | alreadyConnected | config _ => false

end ClientError
end StreamMux
