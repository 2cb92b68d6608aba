import StreamMux.Instances

/-!
Stream ids. The two ends of a connection draw from disjoint sets: odd ids on the client, even
ones on the server. An allocator advances by two within 31 bits and skips 0 and every id that
is still in use.
-/
namespace StreamMux

/-- Which end of a connection we are. -/
inductive Side where
  | client | server
  deriving DecidableEq, Repr, Inhabited

namespace Side

/-- The id is one that this end gives out. -/
def owns (side : Side) (id : UInt32) : Bool :=
  match side with
  | client => id % 2 == 1
  | server => id != 0 && id % 2 == 0

def other : Side → Side
  | client => server
  | server => client

end Side

/-- An id without its reserved top bit. -/
def maskId (n : UInt32) : UInt32 := n &&& 0x7FFFFFFF

/-- The allocator of ids of one end: the id that it issued last, or where it starts. -/
structure StreamIds where
  counter : UInt32
  issued : Bool := false
  deriving DecidableEq, Repr, Inhabited

namespace StreamIds

/-- An allocator that has issued nothing and starts behind the given value. -/
def ofSeed (seed : UInt32) : StreamIds := { counter := seed }

/-- The first id is 1 on the client and 2 on the server. -/
def forSide : Side → StreamIds
  | .client => ofSeed 0xFFFFFFFF
  | .server => ofSeed 0

/-- The first free id behind `counter`, within `limit` steps. -/
def search (inUse : UInt32 → Bool) : Nat → UInt32 → Option (UInt32 × StreamIds)
  | 0, _ => none
  | limit + 1, counter =>
    let id := maskId (counter + 2)
    if id != 0 && !inUse id then some (id, { counter := counter + 2, issued := true })
    else search inUse limit (counter + 2)

/-- The next free id. After `2 ^ 30` steps every id of this parity was looked at. -/
def next? (ids : StreamIds) (inUse : UInt32 → Bool) : Option (UInt32 × StreamIds) :=
  search inUse (2 ^ 30) ids.counter

/-- An id was issued, and the given one is not above the latest. -/
def isBeforeOrCurrent (ids : StreamIds) (id : UInt32) : Bool :=
  ids.issued && id > 0 && id ≤ maskId ids.counter

end StreamIds
end StreamMux
