/-!
Errors of the surrounding system: those that the operating system numbers, and those that only
have a text.
-/
namespace StreamMux

/-- The system errors that this library raises by itself. -/
inductive SystemError where
  | notFound | connectionRefused | networkUnreachable
  deriving DecidableEq, Repr

namespace SystemError

def number : SystemError → Nat
  | notFound => 2
  | connectionRefused => 111
  | networkUnreachable => 101

def kind : SystemError → String
  | notFound => "NotFound"
  | connectionRefused => "ConnectionRefused"
  | networkUnreachable => "NetworkUnreachable"

def description : SystemError → String
  | notFound => "No such file or directory"
  | connectionRefused => "Connection refused"
  | networkUnreachable => "Network is unreachable"

end SystemError

/-- An error of the surrounding system. -/
inductive IoError where
  | system (error : SystemError)
  | other (text : String)
  deriving DecidableEq, Repr

namespace IoError

def text : IoError → String
  | system e => e.description ++ " (os error " ++ toString e.number ++ ")"
  | other text => text

/-- The long form, which names number, kind and description apart. -/
def details : IoError → String
  | system e =>
    "Os \x7b code: " ++ toString e.number ++ ", kind: " ++ e.kind ++ ", message: \""
      ++ e.description ++ "\" \x7d"
  | other text => "Custom \x7b kind: Other, error: \"" ++ text ++ "\" \x7d"

end IoError
end StreamMux
