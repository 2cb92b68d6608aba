import StreamMux.Duration
import StreamMux.ErrorCode
import StreamMux.Frame.Type
import StreamMux.Payload

/-!
Frames: what two ends of a connection send to each other. Five types of frame carry a payload
and share one record; the others have a constructor each.
-/
namespace StreamMux

/-- The largest number of items that one request can ask for; it stands for "without end". -/
def maxRequestN : UInt32 := 0x7FFFFFFF

/-- The largest length that the 24-bit length fields can hold. -/
def maxLength : Nat := 0xFFFFFF

/-- The first frame of a connection: versions, keepalive times, mime types, a payload. -/
structure Setup where
  major : UInt16 := 1
  minor : UInt16 := 0
  keepAlive : Duration
  lifetime : Duration
  resumeToken : Option ByteArray := none
  lease : Bool := false
  metadataMime : String := "application/binary"
  dataMime : String := "application/binary"
  payload : Payload := {}
  deriving DecidableEq, Inhabited

/-- A frame with a payload: one of the four types that open a stream, or PAYLOAD. -/
structure PayloadFrame where
  type : FrameType := .payload
  id : UInt32
  /-- More fragments of this payload come. -/
  follows : Bool := false
  /-- The sender sends nothing more on this stream. -/
  complete : Bool := false
  /-- The frame carries an item. -/
  next : Bool := false
  /-- How many items the sender is ready to receive at first. -/
  initial : UInt32 := 0
  payload : Payload := {}
  deriving DecidableEq, Inhabited

/-- A frame, read. -/
inductive Frame where
  | setup (setup : Setup)
  | lease (ttl : Duration) (requests : UInt32) (metadata : Option ByteArray)
  | keepAlive (respond : Bool) (position : UInt64) (data : ByteArray)
  | metadataPush (metadata : ByteArray)
  | payload (frame : PayloadFrame)
  | requestN (id n : UInt32)
  | cancel (id : UInt32)
  | error (id : UInt32) (code : ErrorCode) (message : String)
  deriving DecidableEq

namespace PayloadFrame

def fireAndForget (id : UInt32) (payload : Payload) : PayloadFrame :=
  { type := .requestFnf, id, payload }

def requestResponse (id : UInt32) (payload : Payload) : PayloadFrame :=
  { type := .requestResponse, id, payload }

def requestStream (id initial : UInt32) (payload : Payload) : PayloadFrame :=
  { type := .requestStream, id, initial, payload }

def requestChannel (id initial : UInt32) (payload : Payload) (complete : Bool) : PayloadFrame :=
  { type := .requestChannel, id, initial, payload, complete }

/-- PAYLOAD with an item. -/
def item (id : UInt32) (payload : Payload) : PayloadFrame := { id, payload, next := true }

/-- PAYLOAD that ends a direction. -/
def completion (id : UInt32) : PayloadFrame := { id, complete := true }

/-- PAYLOAD with the last item. -/
def lastItem (id : UInt32) (payload : Payload) : PayloadFrame :=
  { id, payload, next := true, complete := true }

end PayloadFrame

namespace Frame

/-- The stream that a frame belongs to; 0 is the connection. -/
def id : Frame → UInt32
  | setup _ | lease .. | keepAlive .. | metadataPush _ => 0
  | payload frame => frame.id
  | requestN id _ | cancel id | error id .. => id

/-- The type in the header of the frame. -/
def type : Frame → FrameType
  | setup _ => .setup
  | lease .. => .lease
  | keepAlive .. => .keepAlive
  | metadataPush _ => .metadataPush
  | payload frame => frame.type
  | requestN .. => .requestN
  | cancel _ => .cancel
  | error .. => .error

end Frame
end StreamMux
