/-!
Bytes shown as text although they need not be valid UTF-8. Every longest start of a well-formed
sequence that is not continued, and every byte that cannot start one, becomes one replacement
character.
-/
namespace StreamMux

/-- A sequence under way: how many bytes are missing, between which bounds the next one has to
lie, and the bits so far. -/
structure Utf8Sequence where
  missing : Nat
  low : UInt8 := 0x80
  high : UInt8 := 0xBF
  bits : Nat

/-- The text so far, last character first, and the sequence under way. -/
structure Utf8State where
  shown : List Char := []
  pending : Option Utf8Sequence := none

namespace Utf8State

def replacement : Char := Char.ofNat 0xFFFD

/-- A byte outside any sequence. -/
def start (s : Utf8State) (b : UInt8) : Utf8State :=
  let lead (missing : Nat) (low high : UInt8) (mask : Nat) : Utf8State :=
    { s with pending := some { missing, low, high, bits := b.toNat % mask } }
  if b < 0x80 then { shown := Char.ofNat b.toNat :: s.shown }
  else if 0xC2 ≤ b ∧ b ≤ 0xDF then lead 1 0x80 0xBF 0x20
  else if b = 0xE0 then lead 2 0xA0 0xBF 0x10
  else if b = 0xED then lead 2 0x80 0x9F 0x10
  else if 0xE1 ≤ b ∧ b ≤ 0xEF then lead 2 0x80 0xBF 0x10
  else if b = 0xF0 then lead 3 0x90 0xBF 0x08
  else if 0xF1 ≤ b ∧ b ≤ 0xF3 then lead 3 0x80 0xBF 0x08
  else if b = 0xF4 then lead 3 0x80 0x8F 0x08
  else { shown := replacement :: s.shown }

def next (s : Utf8State) (b : UInt8) : Utf8State :=
  match s.pending with
  | none => s.start b
  | some q =>
    if q.low ≤ b ∧ b ≤ q.high then
      let bits := q.bits * 64 + b.toNat % 64
      if q.missing ≤ 1 then { shown := Char.ofNat bits :: s.shown }
      else { s with pending := some { missing := q.missing - 1, bits } }
    else { shown := replacement :: s.shown : Utf8State }.start b

def finish (s : Utf8State) : List Char :=
  if s.pending.isSome then replacement :: s.shown else s.shown

end Utf8State

/-- Bytes as text, with replacement characters for what is not UTF-8. -/
def lossyText (bytes : ByteArray) : String :=
  String.ofList (bytes.foldl Utf8State.next {}).finish.reverse

end StreamMux
