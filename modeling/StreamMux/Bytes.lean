import StreamMux.Instances

/-!
Numbers as bytes, most significant byte first. Reading what was written gives the number back
as long as it fits; the length of the written form does not depend on the number.
-/
namespace StreamMux

/-- The `count` low-order bytes of a number, most significant first. -/
def bigEndian : Nat → Nat → List UInt8
  | 0, _ => []
  | count + 1, n => bigEndian count (n / 256) ++ [UInt8.ofNat n]

/-- The number that a list of bytes spells, most significant byte first. -/
def ofBigEndian (bytes : List UInt8) : Nat :=
  bytes.foldl (fun n b => n * 256 + b.toNat) 0

@[simp] theorem length_bigEndian (count n : Nat) : (bigEndian count n).length = count := by
  induction count generalizing n with
  | zero => rfl
  | succ count ih => simp [bigEndian, ih]

theorem ofBigEndian_append_singleton (bytes : List UInt8) (b : UInt8) :
    ofBigEndian (bytes ++ [b]) = ofBigEndian bytes * 256 + b.toNat := by
  simp [ofBigEndian]

/-- Writing keeps a number modulo the room it is given. -/
theorem ofBigEndian_bigEndian (count n : Nat) :
    ofBigEndian (bigEndian count n) = n % 256 ^ count := by
  induction count generalizing n with
  | zero => simp [bigEndian, ofBigEndian, Nat.mod_one]
  | succ count ih =>
    have byte : (UInt8.ofNat n).toNat = n % 256 := by simp
    rw [bigEndian, ofBigEndian_append_singleton, ih, byte, Nat.pow_succ, Nat.mul_comm (256 ^ count),
      Nat.mod_mul, Nat.mul_comm, Nat.add_comm]

/-- Bytes in front of which nothing was written yet: a number of `count` bytes. -/
def encodeNat (count n : Nat) : ByteArray := (bigEndian count n).toByteArray

/-- The number spelled by a byte string. -/
def decodeNat (bytes : ByteArray) : Nat := ofBigEndian bytes.data.toList

@[simp] theorem size_encodeNat (count n : Nat) : (encodeNat count n).size = count := by
  simp [encodeNat]

theorem decodeNat_encodeNat (count n : Nat) : decodeNat (encodeNat count n) = n % 256 ^ count := by
  simp [decodeNat, encodeNat, ofBigEndian_bigEndian]

end StreamMux
