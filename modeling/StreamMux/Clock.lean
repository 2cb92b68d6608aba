import StreamMux.Duration

/-!
A clock that moves only when it is told to. Alarms are numbered in the order in which they are
set; of those that are due at one time, the one that was set first goes off first.
-/
namespace StreamMux

/-- A time to wake up at. -/
structure Alarm where
  due : Duration
  ticket : Nat
  deriving DecidableEq, Repr, Inhabited

/-- The earlier one, and of two at one time the one that was set first. -/
def Alarm.isBefore (a b : Alarm) : Bool :=
  a.due < b.due || (a.due = b.due && a.ticket ≤ b.ticket)

/-- The time, which everything on a transport shares. -/
structure Clock where
  now : Duration := 0
  /-- How many alarms were set. -/
  tickets : Nat := 0
  deriving DecidableEq, Repr, Inhabited

namespace Clock

/-- Sets an alarm. -/
def alarm (c : Clock) (due : Duration) : Alarm × Clock :=
  ({ due, ticket := c.tickets }, { c with tickets := c.tickets + 1 })

/-- Its time has come. -/
def isDue (c : Clock) (a : Alarm) : Bool := a.due ≤ c.now

end Clock
end StreamMux
