import StreamMux.Limiter

/-!
Askers of a limiter by name. Each is started, asked for again any number of times, and answered
or given up. Only the one that asked last is parked; the others count as woken.
-/
namespace StreamMux

/-- A limiter and those that have asked it. -/
structure Askers where
  limiter : Limiter
  /-- Who was parked last. -/
  parked : Option String := none
  /-- Who has no answer yet. -/
  waiting : List String := []

namespace Askers

/-- The asker is parked, and nothing has woken it. -/
def isParked (a : Askers) (name : String) : Bool := a.limiter.parked && a.parked == some name

/-- Who waits and was woken, by name. -/
def woken (a : Askers) : List String := (a.waiting.filter (!a.isParked ·)).mergeSort

/-- Asks, or asks again. -/
def ask (a : Askers) (name : String) : Poll (Except Failure Unit) × Askers :=
  let isKnown := a.waiting.contains name
  let (answer, limiter) :=
    if isKnown && a.isParked name then a.limiter.resume
    else { a.limiter with parked := false }.acquire
  match answer with
  | .pending =>
    let waiting := if isKnown then a.waiting else name :: a.waiting
    (answer, { limiter, parked := some name, waiting })
  | _ => (answer, { a with limiter, waiting := a.waiting.erase name })

/-- An asker goes away. -/
def drop (a : Askers) (name : String) : Askers :=
  { a with
    limiter := if a.parked == some name then a.limiter.abandon else a.limiter
    waiting := a.waiting.erase name }

end Askers

/-- Asks so many times and gives up at once if there is no answer; adds the answers to a count. -/
def Limiter.countAnswers : Nat → Limiter → Nat → Nat × Limiter
  | 0, l, count => (count, l)
  | n + 1, l, count =>
    match l.acquire with
    | (.pending, l) => countAnswers n l.abandon count
    | (.ready _, l) => countAnswers n l (count + 1)

end StreamMux
