import StreamMux.Frame.Error

/-!
The ten flag bits of a header. One bit can mean different things on frames of different types:
bit 7 is "follows" on a payload, "respond" on KEEPALIVE and "resume" on SETUP.
-/
namespace StreamMux

/-- The low ten bits of the second word of a header. -/
structure Flags where
  bits : UInt16 := 0
  deriving DecidableEq, Repr, Inhabited

namespace Flags

def none : Flags := {}

def ignoreBit : UInt16 := 0x200
def metadataBit : UInt16 := 0x100
def followsBit : UInt16 := 0x080
def completeBit : UInt16 := 0x040
def nextBit : UInt16 := 0x020
def respondBit : UInt16 := 0x080
def resumeBit : UInt16 := 0x080
def leaseBit : UInt16 := 0x040

/-- The flags with some bits set in addition if `enabled`. -/
def setIf (flags : Flags) (bit : UInt16) (enabled : Bool) : Flags :=
  if enabled then ⟨flags.bits ||| bit⟩ else flags

/-- At least one of the given bits is set. -/
def contains (flags : Flags) (bit : UInt16) : Bool := flags.bits &&& bit != 0

def ignore (flags : Flags) : Bool := flags.contains ignoreBit
def metadata (flags : Flags) : Bool := flags.contains metadataBit
def follows (flags : Flags) : Bool := flags.contains followsBit
def complete (flags : Flags) : Bool := flags.contains completeBit
def next (flags : Flags) : Bool := flags.contains nextBit

/-- Flags from a sixteen-bit word, whose upper six bits must be zero. -/
def ofBits (bits : UInt16) : Except FrameError Flags :=
  if bits &&& 0xFC00 = 0 then .ok ⟨bits⟩ else .error (.badFlags bits)

end Flags
end StreamMux
