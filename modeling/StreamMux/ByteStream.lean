import StreamMux.Failure
import StreamMux.Framing

/-!
A transport over a byte stream. A reader collects what arrives and hands out whole frames; a
stream that ends within a frame is broken. A writer refuses frames that are too long for their
length field, and goes on with the next.
-/
namespace StreamMux

/-- What one read of a stream gives: some bytes, none at its end, or an error. -/
abbrev StreamRead := Except IoError ByteArray

/-- The side of a stream that is read: what has arrived, and what the reads to come will give. After
the last of them the stream has ended. -/
structure StreamReader where
  buffer : FrameBuffer := .empty
  reads : List StreamRead := []
  deriving Inhabited

/-- How a stream ends: within a frame, or behind one. -/
def FrameBuffer.ending (b : FrameBuffer) : Except Failure (Option ByteArray) :=
  if b.size = 0 then .ok none
  else
    .error (.connection
      ("connection closed with " ++ toString b.size ++ " bytes of a partial frame"))

/-- The next frame. What has arrived is looked at first; then the stream is read until a frame is
whole or the stream ends. -/
def FrameBuffer.readFrame (b : FrameBuffer) :
    List StreamRead → Except Failure (Option ByteArray) × StreamReader
  | [] =>
    match b.next? with
    | some (body, b) => (.ok (some body), { buffer := b })
    | none => (b.ending, { buffer := b })
  | read :: reads =>
    match b.next? with
    | some (body, b) => (.ok (some body), { buffer := b, reads := read :: reads })
    | none =>
      match read with
      | .error e => (.error (.transport e), { buffer := b, reads })
      | .ok more =>
        if more.size = 0 then (b.ending, { buffer := b, reads })
        else (b.append more).readFrame reads

/-- The next frame of a stream; none at its end. -/
def StreamReader.readFrame (r : StreamReader) : Except Failure (Option ByteArray) × StreamReader :=
  r.buffer.readFrame r.reads

/-- The bytes that go out for a frame, or why it is refused. -/
def streamBytes (body : ByteArray) : Except Failure ByteArray :=
  match encodeFramed body with
  | .ok bytes => .ok bytes
  | .error e => .error (.ofFrameError e)

/-- Writes frames one after the other: how each went, and all bytes that went out. -/
def writeStream (bodies : List ByteArray) : List (Except Failure Unit) × ByteArray :=
  let results := bodies.map streamBytes
  (results.map (·.map fun _ => ()),
    results.foldl (fun wire r => wire ++ (r.toOption.getD ByteArray.empty)) ByteArray.empty)

end StreamMux
