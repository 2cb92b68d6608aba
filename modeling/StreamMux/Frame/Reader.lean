import StreamMux.Bytes
import StreamMux.Frame.Error

/-!
Reading a frame from its front. A reader consumes bytes, or fails; when it runs out of bytes it
reports how many it misses for the step at hand.
-/
namespace StreamMux

/-- A step that reads from the front of the bytes that are left. -/
abbrev Reader := StateT ByteArray (Except FrameError)

namespace Reader

/-- Fails unless `count` more bytes are there; consumes nothing. -/
def require (count : Nat) : Reader Unit := fun bytes =>
  if bytes.size < count then .error (.incomplete (count - bytes.size)) else .ok ((), bytes)

/-- The next `count` bytes. -/
def take (count : Nat) : Reader ByteArray := fun bytes =>
  if bytes.size < count then .error (.incomplete (count - bytes.size))
  else .ok (bytes.extract 0 count, bytes.extract count bytes.size)

/-- A number of `count` bytes. -/
def number (count : Nat) : Reader Nat := return decodeNat (← take count)

/-- Everything that is left. -/
def rest : Reader ByteArray := fun bytes => .ok (bytes, ByteArray.empty)

end Reader
end StreamMux
