import StreamMux.Instances

/-!
Lengths of time, and points in time counted from a start, in whole nanoseconds. A duration is
written in the largest unit that it fills at least once, with the exact fraction.
-/
namespace StreamMux

/-- A length of time in nanoseconds. -/
structure Duration where
  nanos : Nat
  deriving DecidableEq, Repr, Inhabited

namespace Duration

instance : LE Duration := ⟨fun a b => a.nanos ≤ b.nanos⟩
instance : LT Duration := ⟨fun a b => a.nanos < b.nanos⟩
instance (a b : Duration) : Decidable (a ≤ b) := inferInstanceAs (Decidable (a.nanos ≤ b.nanos))
instance (a b : Duration) : Decidable (a < b) := inferInstanceAs (Decidable (a.nanos < b.nanos))
instance : Add Duration := ⟨fun a b => ⟨a.nanos + b.nanos⟩⟩
instance : Sub Duration := ⟨fun a b => ⟨a.nanos - b.nanos⟩⟩
instance : Zero Duration := ⟨⟨0⟩⟩

def ofMillis (ms : Nat) : Duration := ⟨ms * 1000000⟩

def ofSeconds (s : Nat) : Duration := ⟨s * 1000000000⟩

/-- Whole milliseconds; a started millisecond does not count. -/
def millis (d : Duration) : Nat := d.nanos / 1000000

@[simp] theorem millis_ofMillis (ms : Nat) : (ofMillis ms).millis = ms := by
  simp [millis, ofMillis]

/-- A fraction of `digits` decimal places, without the zeros at its end. -/
def fractionText (digits value : Nat) : String :=
  let places := (List.replicate digits '0' ++ Nat.toDigits 10 value).reverse.take digits
  let shown := (places.dropWhile (· = '0')).reverse
  if shown.isEmpty then "" else "." ++ String.ofList shown

/-- A value in a unit that holds `10 ^ digits` nanoseconds. -/
def unitText (d : Duration) (digits : Nat) (unit : String) : String :=
  toString (d.nanos / 10 ^ digits) ++ fractionText digits (d.nanos % 10 ^ digits) ++ unit

/-- The written form: `3s`, `1.5s`, `50ms`, `1.5µs`, `7ns`; zero is `0ns`. -/
def text (d : Duration) : String :=
  if 10 ^ 9 ≤ d.nanos then d.unitText 9 "s"
  else if 10 ^ 6 ≤ d.nanos then d.unitText 6 "ms"
  else if 10 ^ 3 ≤ d.nanos then d.unitText 3 "µs"
  else d.unitText 0 "ns"

end Duration
end StreamMux
