/-!
Small letters for capital ones: the letters of ASCII and Latin-1, and the Greek and Cyrillic
alphabets. A capital I with a dot keeps its dot as a mark of its own. Everything else stays.
-/
namespace StreamMux

def lowercaseChar (c : Char) : List Char :=
  let n := c.toNat
  let shifted (by_ : Nat) : List Char := [Char.ofNat (n + by_)]
  if 0x41 ≤ n ∧ n ≤ 0x5A then shifted 32
  else if 0xC0 ≤ n ∧ n ≤ 0xDE ∧ n ≠ 0xD7 then shifted 32
  else if n = 0x130 then ['i', Char.ofNat 0x307]
  else if (0x100 ≤ n ∧ n ≤ 0x137 ∨ 0x14A ≤ n ∧ n ≤ 0x177) ∧ n % 2 = 0 then shifted 1
  else if (0x139 ≤ n ∧ n ≤ 0x148 ∨ 0x179 ≤ n ∧ n ≤ 0x17E) ∧ n % 2 = 1 then shifted 1
  else if n = 0x178 then [Char.ofNat 0xFF]
  else if 0x391 ≤ n ∧ n ≤ 0x3AB ∧ n ≠ 0x3A2 then shifted 32
  else if 0x400 ≤ n ∧ n ≤ 0x40F then shifted 80
  else if 0x410 ≤ n ∧ n ≤ 0x42F then shifted 32
  else [c]

def lowercase (cs : List Char) : List Char := cs.flatMap lowercaseChar

end StreamMux
