import StreamMux.Failure
import StreamMux.Fifo

/-!
One direction of a transport that carries whole frames inside a process. What was written before
the writer went away can still be read; after that the reader finds the end.
-/
namespace StreamMux

/-- Frames on their way from a writer to a reader. -/
structure Pipe where
  frames : Fifo ByteArray := .empty
  writerOpen : Bool := true
  readerOpen : Bool := true
  deriving Inhabited

namespace Pipe

/-- Writing fails once either end is gone. -/
def write (p : Pipe) (frame : ByteArray) : Except Failure Pipe :=
  if p.writerOpen && p.readerOpen then .ok { p with frames := p.frames.push frame }
  else .error .closed

def shutdown (p : Pipe) : Pipe := { p with writerOpen := false }

def dropReader (p : Pipe) : Pipe := { p with readerOpen := false, frames := .empty }

/-- The next frame; nothing at all once the writer is gone and everything was read. -/
def read (p : Pipe) : Poll (Option ByteArray) × Pipe :=
  match p.frames.pop? with
  | some (frame, frames) => (.ready (some frame), { p with frames })
  | none => if p.writerOpen then (.pending, p) else (.ready none, p)

/-- Reading would be answered. -/
def isReadable (p : Pipe) : Bool := !p.frames.isEmpty || !p.writerOpen

end Pipe
end StreamMux
