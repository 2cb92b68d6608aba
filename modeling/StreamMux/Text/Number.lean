import StreamMux.Instances

/-!
Whole numbers as text: ASCII digits of a base, at least one. A number as people give it is decimal
and may stand behind one sign; where only unsigned numbers count, a minus is no sign. A value
beyond the bound is no number.
-/
namespace StreamMux

/-- The value of a digit, if it is one in this base. -/
def digit? (base : Nat) (c : Char) : Option Nat :=
  let value? :=
    if '0' ≤ c ∧ c ≤ '9' then some (c.toNat - '0'.toNat)
    else if 'a' ≤ c ∧ c ≤ 'f' then some (c.toNat - 'a'.toNat + 10)
    else if 'A' ≤ c ∧ c ≤ 'F' then some (c.toNat - 'A'.toNat + 10)
    else none
  value?.filter (· < base)

/-- The value of a string of digits. -/
def parseDigits? (base : Nat) (digits : List Char) : Option Nat :=
  if digits.isEmpty then none
  else digits.foldlM (fun n c => (digit? base c).map (n * base + ·)) 0

/-- The number that a text spells without a minus, if it is below the bound. -/
def parseUnsigned? (bound : Nat) (text : String) : Option Nat :=
  let digits :=
    match text.toList with
    | '+' :: rest => rest
    | chars => chars
  (parseDigits? 10 digits).filter (· < bound)

/-- The number that a text spells, perhaps with a minus. -/
def parseInteger? (text : String) : Option Int :=
  match text.toList with
  | '-' :: rest => (parseDigits? 10 rest).map fun n => -(n : Int)
  | '+' :: rest => (parseDigits? 10 rest).map Int.ofNat
  | chars => (parseDigits? 10 chars).map Int.ofNat

end StreamMux
