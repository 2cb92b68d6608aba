import StreamMux.Frame.Decode

/-!
Frames on a byte stream: each stands behind its length in three bytes. A buffer collects the
stream in whatever pieces it arrives and gives the frames back one by one.
-/
namespace StreamMux

/-- A frame body behind its length. -/
def encodeFramed (body : ByteArray) : Except FrameError ByteArray :=
  if body.size ≤ maxLength then .ok (encodeNat 3 body.size ++ body)
  else .error (.tooLarge body.size maxLength)

/-- The bytes of a frame behind their length. -/
def Frame.encodeFramed (frame : Frame) : Except FrameError ByteArray :=
  frame.encode >>= StreamMux.encodeFramed

/-- The part of a byte stream that has arrived and was not taken yet. -/
structure FrameBuffer where
  bytes : ByteArray := ByteArray.empty
  deriving DecidableEq, Inhabited

namespace FrameBuffer

def empty : FrameBuffer := {}

def size (b : FrameBuffer) : Nat := b.bytes.size

def append (b : FrameBuffer) (more : ByteArray) : FrameBuffer := ⟨b.bytes ++ more⟩

/-- The length that the first three bytes announce. -/
def announced (b : FrameBuffer) : Nat := decodeNat (b.bytes.extract 0 3)

/-- The first body, once it has arrived as a whole, and the bytes behind it. -/
def next? (b : FrameBuffer) : Option (ByteArray × FrameBuffer) :=
  if b.size < 3 ∨ b.size < 3 + b.announced then none
  else some (b.bytes.extract 3 (3 + b.announced),
    ⟨b.bytes.extract (3 + b.announced) b.size⟩)

/-- The first frame. A body that is no frame is taken off the buffer all the same. -/
def nextFrame? (b : FrameBuffer) : Option (Except FrameError Frame × FrameBuffer) :=
  b.next?.map fun (body, rest) => (Frame.decode body, rest)

end FrameBuffer
end StreamMux
