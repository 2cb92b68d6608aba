import StreamMux.Text.Number

/-!
Addresses of sockets and their written form: four decimal octets, or eight groups in hexadecimal
within brackets, and a port. The longest run of zero groups, if it has at least two, is written
as `::`; an address that embeds one of four octets shows it.
-/
namespace StreamMux

/-- The address of a machine, the highest part first. -/
inductive IpAddress where
  | v4 (octets : List UInt8)
  | v6 (groups : List UInt16)
  deriving DecidableEq, Repr, Inhabited

/-- An address of a machine and a port on it. -/
structure SocketAddress where
  ip : IpAddress
  /-- The zone of an address with groups; 0 is none. -/
  zone : UInt32 := 0
  port : UInt16
  deriving DecidableEq, Repr, Inhabited

namespace IpAddress

def loopback : IpAddress := v4 [127, 0, 0, 1]

def octetsText (octets : List UInt8) : String :=
  ".".intercalate (octets.map fun o => toString o.toNat)

/-- A number in hexadecimal, without any mark. -/
def hexDigits (n : Nat) : String := String.ofList (Nat.toDigits 16 n)

def groupsText (groups : List UInt16) : String :=
  ":".intercalate (groups.map fun g => hexDigits g.toNat)

/-- How many zero groups a list starts with. -/
def leadingZeros (groups : List UInt16) : Nat := (groups.takeWhile (· = 0)).length

/-- The first of the longest runs of zero groups: where it starts and how long it is. -/
def longestZeros (groups : List UInt16) : Nat × Nat :=
  let runs := (List.range groups.length).map fun i => (i, leadingZeros (groups.drop i))
  runs.foldl (fun best run => if best.2 < run.2 then run else best) (0, 0)

/-- The octets of an address that is embedded behind ten zero bytes and two bytes of ones. -/
def embedded? : List UInt16 → Option (List UInt8)
  | [0, 0, 0, 0, 0, 0xFFFF, a, b] =>
    some ([a.toNat / 256, a.toNat % 256, b.toNat / 256, b.toNat % 256].map UInt8.ofNat)
  | _ => none

def text : IpAddress → String
  | v4 octets => octetsText octets
  | v6 groups =>
    match embedded? groups with
    | some octets => "::ffff:" ++ octetsText octets
    | none =>
      match longestZeros groups with
      | (start, length) =>
        if length < 2 then groupsText groups
        else groupsText (groups.take start) ++ "::" ++ groupsText (groups.drop (start + length))

end IpAddress

namespace SocketAddress

def text (a : SocketAddress) : String :=
  match a.ip with
  | .v4 _ => a.ip.text ++ ":" ++ toString a.port.toNat
  | .v6 _ =>
    let zone := if a.zone = 0 then "" else "%" ++ toString a.zone.toNat
    "[" ++ a.ip.text ++ zone ++ "]:" ++ toString a.port.toNat

/-! ### Reading -/

/-- Something read from the start of a text; what is left of the text is the state. -/
abbrev Scanner (α : Type) := StateT (List Char) Option α

/-- All digits at the start: at least one and at most so many, and a number below the bound. -/
def readNumber (base bound : Nat) (most : Option Nat := none) : Scanner Nat := fun cs =>
  let digits := cs.takeWhile (digit? base · |>.isSome)
  let value := (digits.filterMap (digit? base)).foldl (fun n d => n * base + d) 0
  if digits.isEmpty || most.any (· < digits.length) || bound ≤ value then none
  else some (value, cs.drop digits.length)

def readChar (c : Char) : Scanner Unit
  | d :: rest => if c = d then some ((), rest) else none
  | [] => none

/-- A decimal number of up to three digits without zeros in front. -/
def readOctet : Scanner UInt8 := fun cs =>
  match cs with
  | '0' :: d :: _ => if (digit? 10 d).isSome then none else some (0, cs.drop 1)
  | _ => (readNumber 10 256 (some 3) cs).map fun (n, rest) => (UInt8.ofNat n, rest)

def readOctets : Scanner (List UInt8) := do
  let a ← readOctet
  readChar '.'
  let b ← readOctet
  readChar '.'
  let c ← readOctet
  readChar '.'
  let d ← readOctet
  return [a, b, c, d]

/-- Reads what stands behind the colon that separates it from what came before. -/
def afterColon {α : Type} (isFirst : Bool) (read : Scanner α) : Scanner α := do
  unless isFirst do readChar ':'
  read

/-- Groups separated by colons, at most so many; four octets at the end stand for two groups.
The flag tells whether there were octets. -/
def readGroups : Nat → Bool → List Char → List UInt16 × Bool × List Char
  | 0, _, cs => ([], false, cs)
  | room + 1, isFirst, cs =>
    let octets := if room = 0 then none else afterColon isFirst readOctets cs
    match octets with
    | some (octets, rest) =>
      match octets.map (·.toNat) with
      | [a, b, c, d] => ([UInt16.ofNat (a * 256 + b), UInt16.ofNat (c * 256 + d)], true, rest)
      | _ => ([], false, cs)
    | none =>
      match afterColon isFirst (readNumber 16 65536 (some 4)) cs with
      | none => ([], false, cs)
      | some (g, rest) =>
        let (groups, hasOctets, rest) := readGroups room false rest
        (UInt16.ofNat g :: groups, hasOctets, rest)

/-- Eight groups, or fewer with one `::` for the missing ones, of which there is at least one. -/
def readIpv6 : Scanner (List UInt16) := do
  let (front, hasOctets, rest) := readGroups 8 true (← get)
  set rest
  if front.length = 8 then return front
  if hasOctets then failure
  readChar ':'
  readChar ':'
  let (back, _, rest) := readGroups (7 - front.length) true (← get)
  set rest
  return front ++ List.replicate (8 - front.length - back.length) 0 ++ back

def readPort : Scanner UInt16 := do
  readChar ':'
  return UInt16.ofNat (← readNumber 10 65536)

def readZone : Scanner UInt32 := do
  readChar '%'
  return UInt32.ofNat (← readNumber 10 (2 ^ 32))

def readV4 : Scanner SocketAddress := do
  let octets ← readOctets
  return { ip := .v4 octets, port := ← readPort }

def readV6 : Scanner SocketAddress := do
  readChar '['
  let groups ← readIpv6
  let zone ← readZone <|> pure 0
  readChar ']'
  return { ip := .v6 groups, zone, port := ← readPort }

/-- The address that a text spells. -/
def parse? (text : String) : Option SocketAddress :=
  match (readV4 <|> readV6) text.toList with
  | some (address, []) => some address
  | _ => none

end SocketAddress
end StreamMux
