import StreamMux.ErrorCode
import StreamMux.Frame.Type

/-!
What can be wrong with a frame that is written or read. Only a frame of a known but unsupported
type whose sender allowed it to be skipped may be dropped; every other error is final.
-/
namespace StreamMux

/-- The places in a frame that hold text. -/
inductive TextField where
  | errorMessage | mimeType
  deriving DecidableEq, Repr

def TextField.name : TextField → String
  | errorMessage => "error message"
  | mimeType => "mime type"

/-- Why a frame cannot be written or read. -/
inductive FrameError where
  | unknownType (code : Nat)
  | unsupportedType (type : FrameType) (ignorable : Bool)
  | tooLarge (size limit : Nat)
  | incomplete (missing : Nat)
  | badStreamId (id : UInt32) (type : FrameType)
  | badFlags (bits : UInt16)
  | io (text : String)
  | badText (place : TextField)
  | badMimeType (text : String)
  deriving DecidableEq, Repr

namespace FrameError

/-- The receiver may drop the frame and carry on. -/
def isIgnorable : FrameError → Bool
  | unsupportedType _ ignorable => ignorable
  | _ => false

def message : FrameError → String
  | unknownType code => "unknown frame type: " ++ hexText code
  | unsupportedType type _ => "unsupported frame type: " ++ type.name
  | tooLarge size limit =>
    "frame too large: " ++ toString size ++ " bytes (max " ++ toString limit ++ ")"
  | incomplete missing => "incomplete frame: need " ++ toString missing ++ " more bytes"
  | badStreamId id type => "invalid stream id " ++ toString id.toNat ++ " for " ++ type.name
  | badFlags bits => "invalid frame flags: " ++ hexText bits.toNat
  | io text => "I/O error: " ++ text
  | badText place => "invalid UTF-8 in " ++ place.name
  | badMimeType text => "invalid mime type: " ++ text

end FrameError
end StreamMux
