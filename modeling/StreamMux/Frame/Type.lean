/-!
The fifteen types of frame and their codes. A type tells whether a frame opens a stream, whether
an initial request count stands in front of its payload, and whether it belongs to the connection
or to one stream.
-/
namespace StreamMux

/-- The types of frame. -/
inductive FrameType where
  | setup | lease | keepAlive
  | requestResponse | requestFnf | requestStream | requestChannel
  | requestN | cancel | payload | error
  | metadataPush | resume | resumeOk | extension
  deriving DecidableEq, Repr, Inhabited

namespace FrameType

def all : List FrameType :=
  [setup, lease, keepAlive, requestResponse, requestFnf, requestStream, requestChannel, requestN,
    cancel, payload, error, metadataPush, resume, resumeOk, extension]

/-- The six-bit code in the header. -/
def code : FrameType → Nat
  | setup => 0x01
  | lease => 0x02
  | keepAlive => 0x03
  | requestResponse => 0x04
  | requestFnf => 0x05
  | requestStream => 0x06
  | requestChannel => 0x07
  | requestN => 0x08
  | cancel => 0x09
  | payload => 0x0A
  | error => 0x0B
  | metadataPush => 0x0C
  | resume => 0x0D
  | resumeOk => 0x0E
  | extension => 0x3F

/-- The type with a given code. -/
def ofCode? : Nat → Option FrameType
  | 0x01 => some setup
  | 0x02 => some lease
  | 0x03 => some keepAlive
  | 0x04 => some requestResponse
  | 0x05 => some requestFnf
  | 0x06 => some requestStream
  | 0x07 => some requestChannel
  | 0x08 => some requestN
  | 0x09 => some cancel
  | 0x0A => some payload
  | 0x0B => some error
  | 0x0C => some metadataPush
  | 0x0D => some resume
  | 0x0E => some resumeOk
  | 0x3F => some extension
  | _ => none

@[simp] theorem ofCode?_code (t : FrameType) : ofCode? t.code = some t := by cases t <;> rfl

theorem code_lt (t : FrameType) : t.code < 64 := by cases t <;> decide

/-- The four types that open a stream. -/
def opensStream : FrameType → Bool
  | requestFnf | requestResponse | requestStream | requestChannel => true
  | _ => false

/-- The body starts with the number of items that may be sent at first. -/
def hasInitialRequest : FrameType → Bool
  | requestStream | requestChannel => true
  | _ => false

/-- Frames of these types stand on stream 0. -/
def isConnectionLevel : FrameType → Bool
  | setup | lease | keepAlive | metadataPush | resume | resumeOk => true
  | _ => false

def name : FrameType → String
  | setup => "Setup"
  | lease => "Lease"
  | keepAlive => "KeepAlive"
  | requestResponse => "RequestResponse"
  | requestFnf => "RequestFnf"
  | requestStream => "RequestStream"
  | requestChannel => "RequestChannel"
  | requestN => "RequestN"
  | cancel => "Cancel"
  | payload => "Payload"
  | error => "Error"
  | metadataPush => "MetadataPush"
  | resume => "Resume"
  | resumeOk => "ResumeOk"
  | extension => "Extension"

end FrameType
end StreamMux
