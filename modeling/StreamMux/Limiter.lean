import StreamMux.Failure

/-!
Credit of one stream: how many items may still be sent. Asking for one when there is none parks
the asker; new credit wakes it. Credit that reaches the largest number of items stands for
unlimited demand and is never used up. At most one asker is parked at a time.
-/
namespace StreamMux

/-- The credit of a stream, and whether an asker waits for more. -/
structure Limiter where
  credit : Nat := 0
  unbounded : Bool := false
  cancelled : Bool := false
  /-- An asker waits and nothing has woken it. -/
  parked : Bool := false
  deriving DecidableEq, Repr, Inhabited

namespace Limiter

/-- More credit; at the largest number it turns into unlimited demand. -/
def add (l : Limiter) (n : Nat) : Limiter :=
  if l.unbounded then l
  else if maxRequestN.toNat ≤ l.credit + n then
    { l with unbounded := true, credit := maxRequestN.toNat }
  else { l with credit := l.credit + n }

def new (initial : Nat) : Limiter := ({} : Limiter).add initial

/-- Grants `n` more items and wakes the asker. Nothing happens for 0, or after cancellation. -/
def grant (l : Limiter) (n : Nat) : Limiter :=
  if n = 0 ∨ l.cancelled then l else { l.add n with parked := false }

/-- Ends the stream's demand; the parked asker fails, and so does every later one. -/
def cancel (l : Limiter) : Limiter := { l with cancelled := true, parked := false }

/-- Asks for one item: a failure, a credit spent, or nothing yet and the asker is parked. -/
def acquire (l : Limiter) : Poll (Except Failure Unit) × Limiter :=
  if l.cancelled then (.ready (.error .cancelled), l)
  else if l.unbounded then (.ready (.ok ()), l)
  else if 0 < l.credit then (.ready (.ok ()), { l with credit := l.credit - 1 })
  else (.pending, { l with parked := true })

/-- Asks again for what is pending. As long as nothing woke the asker the answer stays. -/
def resume (l : Limiter) : Poll (Except Failure Unit) × Limiter :=
  if l.parked then (.pending, l) else l.acquire

/-- The asker goes away. -/
def abandon (l : Limiter) : Limiter := { l with parked := false }

/-- An asker that asks now gets an answer. -/
def isDecided (l : Limiter) : Bool := l.cancelled || l.unbounded || 0 < l.credit

def details (l : Limiter) : String :=
  "Limiter \x7b credit: " ++ toString l.credit ++ ", unbounded: " ++ toString l.unbounded
    ++ ", cancelled: " ++ toString l.cancelled ++ " \x7d"

end Limiter
end StreamMux
