/-!
The codes that ERROR frames carry. Ten numbers have a name; every other number is kept as a
custom code, so a code read from the wire is written back as the same number.
-/
namespace StreamMux

/-- A number in lower-case hexadecimal after `0x`, without leading zeros. -/
def hexText (n : Nat) : String := "0x" ++ String.ofList (Nat.toDigits 16 n)

/-- What an ERROR frame says went wrong. -/
inductive ErrorCode where
  | invalidSetup | unsupportedSetup | rejectedSetup | rejectedResume
  | connectionError | connectionClose
  | applicationError | rejected | canceled | invalid
  | custom (code : UInt32)
  deriving DecidableEq, Repr, Inhabited

namespace ErrorCode

/-- The number on the wire. -/
def code : ErrorCode → UInt32
  | invalidSetup => 0x001
  | unsupportedSetup => 0x002
  | rejectedSetup => 0x003
  | rejectedResume => 0x004
  | connectionError => 0x101
  | connectionClose => 0x102
  | applicationError => 0x201
  | rejected => 0x202
  | canceled => 0x203
  | invalid => 0x204
  | custom code => code

/-- The code with a given number. -/
def ofCode (code : UInt32) : ErrorCode :=
  if code = 0x001 then invalidSetup
  else if code = 0x002 then unsupportedSetup
  else if code = 0x003 then rejectedSetup
  else if code = 0x004 then rejectedResume
  else if code = 0x101 then connectionError
  else if code = 0x102 then connectionClose
  else if code = 0x201 then applicationError
  else if code = 0x202 then rejected
  else if code = 0x203 then canceled
  else if code = 0x204 then invalid
  else custom code

/-- Codes that concern the connection as a whole and appear on stream 0 only. -/
def isConnectionLevel : ErrorCode → Bool
  | invalidSetup | unsupportedSetup | rejectedSetup | rejectedResume
  | connectionError | connectionClose => true
  | _ => false

/-- The number has no name of its own. -/
def isCustom : ErrorCode → Bool
  | custom _ => true
  | _ => false

def name : ErrorCode → String
  | invalidSetup => "INVALID_SETUP"
  | unsupportedSetup => "UNSUPPORTED_SETUP"
  | rejectedSetup => "REJECTED_SETUP"
  | rejectedResume => "REJECTED_RESUME"
  | connectionError => "CONNECTION_ERROR"
  | connectionClose => "CONNECTION_CLOSE"
  | applicationError => "APPLICATION_ERROR"
  | rejected => "REJECTED"
  | canceled => "CANCELED"
  | invalid => "INVALID"
  | custom code => "CUSTOM(" ++ hexText code.toNat ++ ")"

/-- Reading a number and writing it again changes nothing. -/
@[simp] theorem code_ofCode (n : UInt32) : (ofCode n).code = n := by
  unfold ofCode
  repeat' split
  all_goals simp_all [code]

end ErrorCode
end StreamMux
