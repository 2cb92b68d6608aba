import Mathlib.Data.List.Induction
import StreamMux.Proofs.Frame.Landing

/-!
# Frames that were read are written as they stood

Reading keeps all of a frame but reserved bits, flags that its type does not have, and what stands
behind the fields of a type. `FrameType.keptBits` names the bits that count. A frame that was read
can be written, is read again as the same frame, and its bytes are those it was read from as far as
the kept bits go (`encode_decode`).

Each reader is described once by the bytes that it consumes (`Reader.Spells`); the bytes of a whole
frame are the pieces that its readers consume, one after the other.
-/
namespace StreamMux

/-! ### Bytes that agree where it counts -/

/-- Byte strings of one length that have the same bits at every place of a mask. -/
structure Alike (mask : Nat → UInt8) (a b : ByteArray) : Prop where
  size : a.size = b.size
  kept : ∀ i (left : i < a.size) (right : i < b.size), a[i] &&& mask i = b[i] &&& mask i

namespace Alike

variable {mask : Nat → UInt8} {a b c d : ByteArray}

theorem refl (mask : Nat → UInt8) (a : ByteArray) : Alike mask a a := ⟨rfl, fun _ _ _ => rfl⟩

/-- What follows is compared at its place behind what stands in front. -/
theorem append (front : Alike mask a b) (back : Alike (fun i => mask (i + a.size)) c d) :
    Alike mask (a ++ c) (b ++ d) := by
  refine ⟨by rw [ByteArray.size_append, ByteArray.size_append, front.size, back.size], ?_⟩
  intro i left right
  rw [ByteArray.size_append] at left right
  by_cases early : i < a.size
  · rw [ByteArray.getElem_append_left early, ByteArray.getElem_append_left (front.size ▸ early)]
    exact front.kept i _ _
  · have late : a.size ≤ i := Nat.le_of_not_lt early
    rw [ByteArray.getElem_append_right late, ByteArray.getElem_append_right (front.size ▸ late)]
    have same := back.kept (i - a.size) (by omega) (by have := front.size; omega)
    simpa only [← front.size, Nat.sub_add_cancel late] using same

/-- Bytes that a longer string starts with, place by place. -/
theorem of_append {P : Prop} (front : Alike mask a b) (back : c ≠ ByteArray.empty → P) :
    ∃ shorter : a.size ≤ (b ++ c).size,
      (∀ i (inside : i < a.size), a[i] &&& mask i = (b ++ c)[i] &&& mask i) ∧
      (a.size < (b ++ c).size → P) := by
  have size : (b ++ c).size = a.size + c.size := by rw [ByteArray.size_append, front.size]
  refine ⟨by omega, fun i inside => ?_, fun less => back ?_⟩
  · rw [ByteArray.getElem_append_left (front.size ▸ inside)]
    exact front.kept i inside _
  · rintro rfl
    rw [size, ByteArray.size_empty] at less
    omega

theorem of_lists {xs ys : List UInt8} (length : xs.length = ys.length)
    (kept : ∀ i (left : i < xs.length) (right : i < ys.length),
      xs[i] &&& mask i = ys[i] &&& mask i) : Alike mask xs.toByteArray ys.toByteArray := by
  refine ⟨by simpa using length, fun i left right => ?_⟩
  simpa [ByteArray.getElem_eq_getElem_data] using
    kept i (by simpa using left) (by simpa using right)

end Alike

/-- Seven bits are kept of a byte whose top bit is reserved. -/
theorem and_seven_bits {x y : UInt8} (same : x.toNat % 2 ^ 7 = y.toNat % 2 ^ 7) :
    x &&& 0x7F = y &&& 0x7F := by
  rw [← UInt8.toNat_inj, UInt8.toNat_and, UInt8.toNat_and]
  change x.toNat &&& (2 ^ 7 - 1) = y.toNat &&& (2 ^ 7 - 1)
  rw [Nat.and_two_pow_sub_one_eq_mod, Nat.and_two_pow_sub_one_eq_mod, same]

/-- Six bits are kept of a byte whose lowest two are flags. -/
theorem and_high_bits {x y : UInt8} (same : x.toNat / 4 = y.toNat / 4) :
    x &&& 0xFC = y &&& 0xFC := by
  have table : ∀ n < 256, n &&& 0xFC = n / 4 * 4 := by decide +kernel
  rw [← UInt8.toNat_inj, UInt8.toNat_and, UInt8.toNat_and]
  change x.toNat &&& 0xFC = y.toNat &&& 0xFC
  rw [table _ x.toNat_lt, table _ y.toNat_lt, same]

/-- Numbers that differ in the top bit of 32. -/
theorem encodeNat_alike_low31 {mask : Nat → UInt8} {m n : Nat} (first : mask 0 = 0x7F)
    (same : m % 2 ^ 31 = n % 2 ^ 31) : Alike mask (encodeNat 4 m) (encodeNat 4 n) := by
  refine Alike.of_lists (by simp) fun i left _ => ?_
  simp only [length_bigEndian] at left
  match i, left with
  | 0, _ =>
    rw [first]
    refine and_seven_bits ?_
    simp only [bigEndian, List.nil_append, List.cons_append, List.getElem_cons_zero,
      UInt8.toNat_ofNat']
    omega
  | 1, _ | 2, _ | 3, _ =>
    refine congrArg (· &&& _) (UInt8.toNat_inj.mp ?_)
    simp only [bigEndian, List.nil_append, List.cons_append, List.getElem_cons_succ,
      List.getElem_cons_zero, UInt8.toNat_ofNat']
    omega

/-- Words that differ in their low ten bits. -/
theorem encodeNat_alike_flags {mask : Nat → UInt8} {m n : Nat} (first : mask 0 = 0xFC)
    (second : mask 1 = 0) (same : m / 1024 = n / 1024) :
    Alike mask (encodeNat 2 m) (encodeNat 2 n) := by
  refine Alike.of_lists (by simp) fun i left _ => ?_
  simp only [length_bigEndian] at left
  match i, left with
  | 0, _ =>
    rw [first]
    refine and_high_bits ?_
    simp only [bigEndian, List.nil_append, List.cons_append, List.getElem_cons_zero,
      UInt8.toNat_ofNat']
    omega
  | 1, _ => rw [second, UInt8.and_zero, UInt8.and_zero]

theorem FrameType.code_of_ofCode? {n : Nat} {type : FrameType} (known : ofCode? n = some type) :
    n = type.code := by
  unfold ofCode? at known
  split at known
  all_goals cases known
  all_goals rfl

/-! ### What a reader consumes -/

/-- Writing a number that was spelled by some bytes gives these bytes. -/
theorem bigEndian_ofBigEndian (bytes : List UInt8) :
    bigEndian bytes.length (ofBigEndian bytes) = bytes := by
  induction bytes using List.reverseRecOn with
  | nil => rfl
  | append_singleton bytes b ih =>
    have small := b.toNat_lt
    have high : (ofBigEndian bytes * 256 + b.toNat) / 256 = ofBigEndian bytes := by omega
    have low : UInt8.ofNat (ofBigEndian bytes * 256 + b.toNat) = b := by
      rw [← UInt8.toNat_inj, UInt8.toNat_ofNat']
      omega
    rw [List.length_append, List.length_singleton, ofBigEndian_append_singleton, bigEndian, high,
      low, ih]

theorem encodeNat_decodeNat (bytes : ByteArray) :
    encodeNat bytes.size (decodeNat bytes) = bytes := by
  have spelled := bigEndian_ofBigEndian bytes.data.toList
  refine ByteArray.ext ?_
  rw [encodeNat, decodeNat, List.data_toByteArray]
  exact (congrArg List.toArray spelled).trans Array.toArray_toList

/-- Bytes spell a number that fits their count. -/
theorem ofBigEndian_lt (bytes : List UInt8) : ofBigEndian bytes < 256 ^ bytes.length := by
  rw [← bigEndian_ofBigEndian bytes, ofBigEndian_bigEndian, length_bigEndian]
  exact Nat.mod_lt _ (Nat.pow_pos (by decide))

namespace Reader

/-- What a reader gives is told by the bytes that it consumes and those that it leaves. -/
def Spells {α : Type} (r : Reader α) (bytes : ByteArray)
    (P : α → ByteArray → ByteArray → Prop) : Prop :=
  ∀ a left, r bytes = .ok (a, left) → ∃ front, bytes = front ++ left ∧ P a front left

section
variable {α β : Type} {r : Reader α} {k : α → Reader β} {bytes : ByteArray}
variable {P : α → ByteArray → ByteArray → Prop} {Q : β → ByteArray → ByteArray → Prop}

theorem spells_pure {a : α} (h : P a ByteArray.empty bytes) :
    (pure a : Reader α).Spells bytes P := by
  intro b left read
  cases read
  exact ⟨ByteArray.empty, ByteArray.empty_append.symm, h⟩

theorem spells_throw (e : FrameError) : (throw e : Reader α).Spells bytes P := by
  intro b left read
  cases read

/-- One reader after the other consumes the bytes of both. -/
theorem spells_bind (first : r.Spells bytes P)
    (second : ∀ a front mid, P a front mid →
      (k a).Spells mid fun b back left => Q b (front ++ back) left) :
    (r >>= k).Spells bytes Q := by
  intro b left read
  obtain ⟨⟨a, mid⟩, hr, rest⟩ := bind_ok read
  obtain ⟨front, rfl, h⟩ := first _ _ hr
  obtain ⟨back, rfl, done⟩ := second a front _ h _ _ rest
  exact ⟨front ++ back, ByteArray.append_assoc.symm, done⟩

theorem spells_map {f : α → β} (h : r.Spells bytes P)
    (keeps : ∀ a front left, P a front left → Q (f a) front left) : (f <$> r).Spells bytes Q := by
  intro b left read
  obtain ⟨⟨a, mid⟩, ran, last⟩ := bind_ok
    (show r bytes >>= (fun p => Except.ok (f p.1, p.2)) = .ok (b, left) from read)
  cases last
  obtain ⟨front, split, told⟩ := h _ _ ran
  exact ⟨front, split, keeps _ _ _ told⟩

end

variable (bytes : ByteArray)

theorem require_spells (count : Nat) : (require count).Spells bytes fun _ front _ =>
    front = ByteArray.empty := by
  intro a left read
  unfold require at read
  split at read
  · contradiction
  · cases read
    exact ⟨_, ByteArray.empty_append.symm, rfl⟩

theorem take_spells (count : Nat) : (take count).Spells bytes fun a front _ =>
    front = a ∧ a.size = count := by
  intro a left read
  unfold take at read
  split at read
  · contradiction
  next enough =>
    cases read
    refine ⟨_, ?_, rfl, ?_⟩
    · rw [ByteArray.extract_append_extract]
      simp
    · rw [ByteArray.size_extract]
      omega

theorem rest_spells : rest.Spells bytes fun a front left =>
    front = a ∧ left = ByteArray.empty := by
  intro a left read
  cases read
  exact ⟨_, ByteArray.append_empty.symm, rfl, rfl⟩

/-! ### Numbers, texts, payloads -/

theorem number_spells (count : Nat) : (number count).Spells bytes fun n front _ =>
    front = encodeNat count n ∧ n < 256 ^ count := by
  refine spells_bind (take_spells bytes count) fun a front _ ⟨same, size⟩ => spells_pure ?_
  subst same size
  exact ⟨by rw [ByteArray.append_empty, encodeNat_decodeNat], ofBigEndian_lt front.data.toList⟩

theorem number31_spells : number31.Spells bytes fun n front _ =>
    n.toNat < 2 ^ 31 ∧ ∃ m, front = encodeNat 4 m ∧ n.toNat = m % 2 ^ 31 := by
  refine spells_bind (number_spells bytes 4) fun m front _ ⟨same, _⟩ => spells_pure ?_
  have value : (UInt32.ofNat (m % 2 ^ 31)).toNat = m % 2 ^ 31 := by
    rw [UInt32.toNat_ofNat']
    omega
  rw [value, ByteArray.append_empty]
  exact ⟨by omega, m, same, rfl⟩

theorem millis_spells : millis.Spells bytes fun d front _ =>
    d.IsWire ∧ front = encodeNat 4 d.toWireMillis := by
  refine spells_bind (number_spells bytes 4) fun n front _ ⟨same, fits⟩ => spells_pure ?_
  have small : n ≤ 0xFFFFFFFF := by omega
  refine ⟨⟨n, small, rfl⟩, ?_⟩
  rw [ByteArray.append_empty, Duration.toWireMillis, Duration.millis_ofMillis,
    Nat.min_eq_left small, same]

/-- A byte string behind its length. -/
theorem sized_spells (count : Nat) : (do take (← number count) : Reader ByteArray).Spells bytes
    fun a front _ => front = encodeNat count a.size ++ a ∧ a.size < 256 ^ count := by
  refine spells_bind (number_spells bytes count) fun n front mid ⟨same, fits⟩ => ?_
  intro a left read
  obtain ⟨back, rest, rfl, rfl⟩ := take_spells mid n a left read
  exact ⟨back, rest, by rw [same], fits⟩

theorem toUTF8_of_fromUTF8? {raw : ByteArray} {text : String}
    (h : String.fromUTF8? raw = some text) : text.toUTF8 = raw := by
  unfold String.fromUTF8? at h
  split at h
  · cases h
    rfl
  · contradiction

theorem mime_spells : mime.Spells bytes fun text front _ => encodeMime text = .ok front := by
  refine spells_bind (number_spells bytes 1) fun n size mid ⟨sized, fits⟩ =>
    spells_bind (take_spells mid n) fun raw body _ ⟨same, count⟩ => ?_
  subst same count
  split
  · exact spells_throw _
  next text valid =>
    have raw_eq := toUTF8_of_fromUTF8? valid
    split
    next ascii =>
      refine spells_pure ?_
      have length : text.utf8ByteSize = body.size := congrArg ByteArray.size raw_eq
      rw [encodeMime, if_pos ⟨ascii, by omega⟩, length, raw_eq, ByteArray.append_empty, sized]
    · exact spells_throw _

/-- Metadata, where a header announces it, stands behind its length; data reach to the end. -/
theorem payload_spells (flag : Bool) : (payload flag).Spells bytes fun p front left =>
    encodePayload p = .ok front ∧ p.hasMetadata = flag ∧ left = ByteArray.empty := by
  unfold payload
  cases flag with
  | false =>
    refine spells_bind (P := fun m front _ => m = none ∧ front = ByteArray.empty)
      (spells_pure ⟨rfl, rfl⟩) fun m size mid ⟨absent, nothing⟩ =>
        spells_bind (rest_spells mid) fun data body left ⟨same, finished⟩ => spells_pure ?_
    subst absent nothing same
    exact ⟨by rw [ByteArray.append_empty, ByteArray.empty_append]; rfl, rfl, finished⟩
  | true =>
    refine spells_bind (P := fun m front _ => ∃ raw, m = .some raw ∧
        front = encodeNat 3 raw.size ++ raw ∧ raw.size < 256 ^ 3)
      (spells_map (sized_spells bytes 3) fun a front left told => ⟨a, rfl, told⟩)
      fun m sized mid ⟨raw, present, same, fits⟩ =>
        spells_bind (rest_spells mid) fun data body left ⟨whole, nothing⟩ => spells_pure ?_
    subst present same whole
    have bound : raw.size ≤ maxLength := Nat.le_of_lt_succ fits
    refine ⟨?_, rfl, nothing⟩
    rw [encodePayload]
    dsimp only
    rw [if_pos bound, ByteArray.append_empty]

end Reader

/-! ### Frames -/

/-- The bits of each byte of a frame that count. The top bit of the first byte and that of a request
count are reserved; the low ten bits of the second word of the header are flags, of which a type has
only some. -/
def FrameType.keptBits (type : FrameType) : Nat → UInt8
  | 0 => 0x7F
  | 4 => 0xFC
  | 5 => 0x00
  | 6 => if type.hasInitialRequest || type = .requestN then 0x7F else 0xFF
  | _ => 0xFF

/-- The fields of the frame do not reach to the end of the bytes: what stands behind them is not
read. -/
def Frame.EndsEarly : Frame → Prop
  | .requestN .. | .cancel _ | .lease _ _ none => True
  | _ => False

/-- The flags that a frame is written with. -/
def Frame.writtenFlags : Frame → Flags
  | .setup s => s.flags
  | .lease _ _ metadata => Flags.none.setIf Flags.metadataBit metadata.isSome
  | .keepAlive respond _ _ => Flags.none.setIf Flags.respondBit respond
  | .metadataPush _ => ⟨Flags.metadataBit⟩
  | .payload f => f.flags
  | .requestN .. | .cancel _ | .error .. => Flags.none

theorem Frame.writtenFlags_lt (f : Frame) : f.writtenFlags.bits.toNat < 1024 := by
  cases f with
  | setup s => exact (setup_flags s).1
  | lease ttl requests metadata =>
    rw [writtenFlags]
    cases metadata.isSome <;> decide
  | keepAlive respond position data =>
    rw [writtenFlags]
    cases respond <;> decide
  | payload f => exact (payload_flags f).1
  | metadataPush _ | requestN _ _ | cancel _ | error _ _ _ =>
    rw [writtenFlags]
    decide

/-- The frame was read behind a header, from the front of bytes that it is written as again. -/
structure Header.Restores (h : Header) (f : Frame) (bytes : ByteArray) : Prop where
  canonical : f.Canonical
  type : f.type = h.type
  written : ∃ again fields tail, f.encode = .ok (encodeHeader h.id h.type f.writtenFlags ++ again) ∧
    Alike (fun i => h.type.keptBits (i + 6)) again fields ∧ bytes = fields ++ tail ∧
    (tail ≠ ByteArray.empty → f.EndsEarly)

/-- The fields reach to the end, and are written byte for byte as they were read. -/
theorem Header.Restores.whole {h : Header} {f : Frame} {fields left : ByteArray}
    (canonical : f.Canonical) (type : f.type = h.type)
    (written : f.encode = .ok (encodeHeader h.id h.type f.writtenFlags ++ fields))
    (nothing : left = ByteArray.empty) : h.Restores f (fields ++ left) :=
  ⟨canonical, type, fields, fields, left, written, Alike.refl _ _, rfl,
    fun more => absurd nothing more⟩

/-- The header stands where it can, and its id has no top bit. -/
structure Header.Placed (h : Header) : Prop where
  low : low31 h.id = h.id
  placed : Reader.misplaced h.id h.type = false

namespace Header.Placed

variable {h : Header} (placed : h.Placed)
include placed

theorem connection (level : h.type.isConnectionLevel = true) : h.id = 0 := by
  simpa [Reader.misplaced, level] using placed.placed

theorem stream (level : h.type.isConnectionLevel = false) (other : h.type ≠ .error) :
    IsStreamId h.id := by
  refine (isStreamId_iff h.id).mpr ⟨placed.low, fun zero => ?_⟩
  rw [placed.low] at zero
  have wrong := (misplaced_iff h.type h.id level other).mpr zero
  rw [placed.placed] at wrong
  contradiction

end Header.Placed

/-- The parts of a SETUP make up its bytes. -/
theorem encode_setup_of {s : Setup} {token metadataMime dataMime payload : ByteArray}
    (ht : encodeToken s.resumeToken = .ok token) (hm : encodeMime s.metadataMime = .ok metadataMime)
    (hd : encodeMime s.dataMime = .ok dataMime) (hp : encodePayload s.payload = .ok payload) :
    (Frame.setup s).encode = .ok (encodeHeader 0 .setup s.flags ++ (encodeNat 2 s.major.toNat ++
      (encodeNat 2 s.minor.toNat ++ (encodeNat 4 s.keepAlive.toWireMillis ++
      (encodeNat 4 s.lifetime.toWireMillis ++ (token ++ (metadataMime ++
      (dataMime ++ payload)))))))) := by
  change s.encode = _
  unfold Setup.encode
  rw [ht, hm, hd, hp]
  simp only [bind, Except.bind, pure, Except.pure, ByteArray.append_assoc]

namespace Reader

variable {h : Header} (placed : h.Placed) (bytes : ByteArray)

theorem token_spells : (do some <$> do take (← number 2) : Reader (Option ByteArray)).Spells bytes
    fun token front _ => encodeToken token = .ok front := by
  refine spells_map (sized_spells bytes 2) fun raw front _ ⟨same, fits⟩ => ?_
  have bound : raw.size ≤ 0xFFFF := Nat.le_of_lt_succ fits
  rw [encodeToken, if_pos bound, same]

include placed

theorem setup_restores (type : h.type = .setup) : (setup h.flags).Spells bytes fun f fields left =>
      h.Restores f (fields ++ left) := by
  have zero : h.id = 0 := placed.connection (by rw [type]; rfl)
  refine spells_bind (require_spells bytes 12) fun _ f₀ b₀ none₀ =>
    spells_bind (number_spells b₀ 2) fun major f₁ b₁ ⟨h₁, s₁⟩ =>
    spells_bind (number_spells b₁ 2) fun minor f₂ b₂ ⟨h₂, s₂⟩ =>
    spells_bind (millis_spells b₂) fun keepAlive f₃ b₃ ⟨w₃, h₃⟩ =>
    spells_bind (millis_spells b₃) fun lifetime f₄ b₄ ⟨w₄, h₄⟩ => ?_
  have last (token : Option ByteArray) (f₅ b₅ : ByteArray) (ht : encodeToken token = .ok f₅) :
      (do
        let metadataMime ← mime
        let dataMime ← mime
        let payload ← payload h.flags.metadata
        return .setup {
          major := UInt16.ofNat major, minor := UInt16.ofNat minor, keepAlive, lifetime
          resumeToken := token, lease := h.flags.contains Flags.leaseBit, metadataMime
          dataMime, payload } : Reader Frame).Spells b₅ fun f back left =>
        h.Restores f (f₀ ++ (f₁ ++ (f₂ ++ (f₃ ++ (f₄ ++ (f₅ ++ back))))) ++ left) := by
    refine spells_bind (mime_spells b₅) fun metadataMime f₆ b₆ hm =>
      spells_bind (mime_spells b₆) fun dataMime f₇ b₇ hd =>
      spells_bind (payload_spells b₇ h.flags.metadata) fun payload f₈ b₈ ⟨hp, _, nothing⟩ =>
      spells_pure ?_
    have major_toNat : (UInt16.ofNat major).toNat = major := UInt16.toNat_ofNat_of_lt' s₁
    have minor_toNat : (UInt16.ofNat minor).toNat = minor := UInt16.toNat_ofNat_of_lt' s₂
    refine .whole ⟨w₃, w₄⟩ type.symm ?_ nothing
    rw [encode_setup_of ht hm hd hp, zero, type, none₀, h₁, h₂, h₃, h₄]
    dsimp only
    rw [major_toNat, minor_toNat, ByteArray.append_empty, ByteArray.empty_append,
      Frame.writtenFlags]
  dsimp only
  split
  · exact spells_bind (token_spells b₄) fun token f₅ b₅ ht => last token f₅ b₅ ht
  · exact spells_bind (P := fun token front _ => encodeToken token = .ok front)
      (spells_pure rfl) fun token f₅ b₅ ht => last token f₅ b₅ ht

theorem lease_restores (type : h.type = .lease) : (lease h.flags).Spells bytes fun f fields left =>
    h.Restores f (fields ++ left) := by
  have zero : h.id = 0 := placed.connection (by rw [type]; rfl)
  refine spells_bind (require_spells bytes 8) fun _ f₀ b₀ none₀ =>
    spells_bind (millis_spells b₀) fun ttl f₁ b₁ ⟨w₁, h₁⟩ =>
    spells_bind (number_spells b₁ 4) fun requests f₂ b₂ ⟨h₂, s₂⟩ =>
    spells_bind (rest_spells b₂) fun metadata f₃ b₃ ⟨h₃, nothing⟩ => spells_pure ?_
  have requests_toNat : (UInt32.ofNat requests).toNat = requests := UInt32.toNat_ofNat_of_lt' s₂
  cases h.flags.metadata with
  | true =>
    refine .whole w₁ type.symm ?_ nothing
    rw [Frame.encode, zero, type, none₀, h₁, h₂, h₃, requests_toNat, if_pos rfl,
      Frame.writtenFlags]
    simp only [Option.getD_some, ByteArray.append_assoc, ByteArray.append_empty,
      ByteArray.empty_append]
  | false =>
    refine ⟨w₁, type.symm, f₁ ++ f₂, f₁ ++ f₂, f₃, ?_, Alike.refl _ _, ?_, fun _ => trivial⟩
    · rw [Frame.encode, zero, type, h₁, h₂, requests_toNat, if_neg Bool.false_ne_true,
        Frame.writtenFlags]
      simp only [Option.getD_none, ByteArray.append_assoc, ByteArray.append_empty]
    · simp only [none₀, nothing, ByteArray.append_assoc, ByteArray.append_empty,
        ByteArray.empty_append]

theorem keepAlive_restores (type : h.type = .keepAlive) :
    (keepAlive h.flags).Spells bytes fun f fields left => h.Restores f (fields ++ left) := by
  have zero : h.id = 0 := placed.connection (by rw [type]; rfl)
  refine spells_bind (number_spells bytes 8) fun position f₁ b₁ ⟨h₁, s₁⟩ =>
    spells_bind (rest_spells b₁) fun data f₂ b₂ ⟨h₂, nothing⟩ => spells_pure ?_
  have position_toNat : (UInt64.ofNat position).toNat = position := UInt64.toNat_ofNat_of_lt' s₁
  refine .whole trivial type.symm ?_ nothing
  rw [Frame.encode, zero, type, h₁, h₂, position_toNat, ByteArray.append_empty,
    ByteArray.append_assoc, Frame.writtenFlags]

theorem metadataPush_restores (type : h.type = .metadataPush) :
    (do return .metadataPush (← rest) : Reader Frame).Spells bytes fun f fields left =>
      h.Restores f (fields ++ left) := by
  have zero : h.id = 0 := placed.connection (by rw [type]; rfl)
  refine spells_bind (rest_spells bytes) fun metadata f₁ b₁ ⟨h₁, nothing⟩ => spells_pure ?_
  refine .whole trivial type.symm ?_ nothing
  rw [Frame.encode, zero, type, h₁, ByteArray.append_empty, Frame.writtenFlags]

theorem requestN_restores (type : h.type = .requestN) :
    (do return .requestN h.id (← number31) : Reader Frame).Spells bytes fun f fields left =>
      h.Restores f (fields ++ left) := by
  have stream : IsStreamId h.id := placed.stream (by rw [type]; rfl) (by rw [type]; decide)
  refine spells_bind (number31_spells bytes) fun n f₁ b₁ ⟨bound, m, h₁, low⟩ => spells_pure ?_
  refine ⟨⟨stream, ?_⟩, type.symm, encodeNat 4 n.toNat, f₁, b₁, ?_, ?_, ?_, fun _ => trivial⟩
  · rw [UInt32.le_iff_toNat_le]
    exact Nat.le_of_lt_succ bound
  · rw [Frame.encode, type, Frame.writtenFlags]
  · rw [h₁, low]
    refine encodeNat_alike_low31 ?_ (by omega)
    rw [type]
    rfl
  · rw [ByteArray.append_empty]

theorem cancel_restores (type : h.type = .cancel) :
    (pure (.cancel h.id) : Reader Frame).Spells bytes fun f fields left =>
      h.Restores f (fields ++ left) := by
  have stream : IsStreamId h.id := placed.stream (by rw [type]; rfl) (by rw [type]; decide)
  refine spells_pure ⟨stream, type.symm, ByteArray.empty, ByteArray.empty, bytes, ?_,
    Alike.refl _ _, rfl, fun _ => trivial⟩
  rw [Frame.encode, type, Frame.writtenFlags, ByteArray.append_empty]

theorem errorFrame_restores (type : h.type = .error) :
    (errorFrame h.id).Spells bytes fun f fields left => h.Restores f (fields ++ left) := by
  refine spells_bind (number_spells bytes 4) fun code f₁ b₁ ⟨h₁, s₁⟩ =>
    spells_bind (rest_spells b₁) fun raw f₂ b₂ ⟨h₂, nothing⟩ => ?_
  split
  · exact spells_throw _
  next message valid =>
    have code_toNat : (UInt32.ofNat code).toNat = code := UInt32.toNat_ofNat_of_lt' s₁
    refine spells_pure (.whole ⟨?_, ?_⟩ type.symm ?_ nothing)
    · rw [← low31_eq_iff]
      exact placed.low
    · exact (ofCode_code_iff _).mp (by rw [ErrorCode.code_ofCode])
    · rw [Frame.encode, type, h₁, h₂, ErrorCode.code_ofCode, code_toNat,
        toUTF8_of_fromUTF8? valid, ByteArray.append_empty, ByteArray.append_assoc,
        Frame.writtenFlags]

/-- The payload stands behind the request count of the two types that have one. -/
theorem payloadFrame_restores (carries : h.type.carries) :
    (payloadFrame h).Spells bytes fun f fields left => h.Restores f (fields ++ left) := by
  have stream : IsStreamId h.id := placed.stream carries.of_stream.1 carries.of_stream.2
  have last (initial : UInt32) (f₁ b₁ : ByteArray)
      (bound : if h.type.hasInitialRequest then initial ≤ 0x7FFFFFFF else initial = 0)
      (alike : Alike (fun i => h.type.keptBits (i + 6))
        (if h.type.hasInitialRequest then encodeNat 4 initial.toNat else ByteArray.empty) f₁) :
      (do
        let payload ← payload h.flags.metadata
        return .payload {
          type := h.type, id := h.id, follows := h.flags.follows
          complete := h.flags.complete && (h.type = .requestChannel || h.type = .payload)
          next := h.flags.next && h.type = .payload
          initial, payload } : Reader Frame).Spells b₁ fun f back left =>
        h.Restores f (f₁ ++ back ++ left) := by
    refine spells_bind (payload_spells b₁ h.flags.metadata) fun payload f₂ b₂ ⟨hp, _, nothing⟩ =>
      spells_pure ⟨⟨carries, stream, fun ends => ?_, fun item => ?_, bound⟩, rfl, _, f₁ ++ f₂, b₂,
        ?_, alike.append (Alike.refl _ f₂), ?_, fun more => absurd nothing more⟩
    · simpa using (Bool.and_eq_true_iff.mp ends).2
    · simpa using (Bool.and_eq_true_iff.mp item).2
    · change PayloadFrame.encode _ = _
      rw [PayloadFrame.encode, hp, Frame.writtenFlags, ← ByteArray.append_assoc]
      rfl
    · rw [ByteArray.append_empty]
  unfold payloadFrame
  dsimp only
  split
  next asks =>
    refine spells_bind (number31_spells bytes) fun n f₁ b₁ ⟨bound, m, h₁, low⟩ => last n f₁ b₁ ?_ ?_
    · rw [if_pos asks, UInt32.le_iff_toNat_le]
      exact Nat.le_of_lt_succ bound
    · rw [if_pos asks, h₁, low]
      refine encodeNat_alike_low31 ?_ (by omega)
      simp [FrameType.keptBits, asks]
  next silent =>
    refine spells_bind (P := fun n front _ => n = 0 ∧ front = ByteArray.empty)
      (spells_pure ⟨rfl, rfl⟩) fun n f₁ b₁ ⟨zero, h₁⟩ => last n f₁ b₁ ?_ ?_
    · rw [if_neg silent, zero]
    · rw [if_neg silent, h₁]
      exact Alike.refl _ _

theorem body_restores : (body h).Spells bytes fun f fields left =>
    h.Restores f (fields ++ left) := by
  unfold body
  split
  next type => exact setup_restores placed bytes type
  next type => exact lease_restores placed bytes type
  next type => exact keepAlive_restores placed bytes type
  next type => exact metadataPush_restores placed bytes type
  next type => exact payloadFrame_restores placed bytes (.inl (by rw [type]; rfl))
  next type => exact payloadFrame_restores placed bytes (.inl (by rw [type]; rfl))
  next type => exact payloadFrame_restores placed bytes (.inl (by rw [type]; rfl))
  next type => exact payloadFrame_restores placed bytes (.inl (by rw [type]; rfl))
  next type => exact payloadFrame_restores placed bytes (.inr type)
  next type => exact requestN_restores placed bytes type
  next type => exact cancel_restores placed bytes type
  next type => exact errorFrame_restores placed bytes type
  · exact spells_throw _
  · exact spells_throw _
  · exact spells_throw _

omit placed in
/-- The six bytes of a header are those that its id and its type are written as, whatever flags are
written with them. -/
theorem header_spells : header.Spells bytes fun h front _ =>
    ∀ flags : Flags, flags.bits.toNat < 1024 →
      Alike h.type.keptBits (encodeHeader h.id h.type flags) front := by
  refine spells_bind (require_spells bytes 6) fun _ f₀ b₀ none₀ =>
    spells_bind (number31_spells b₀) fun id f₁ b₁ ⟨bound, m, h₁, low⟩ =>
    spells_bind (number_spells b₁ 2) fun word f₂ b₂ ⟨h₂, _⟩ => ?_
  split
  · exact spells_throw _
  next type known =>
    have code : word / 1024 = type.code := FrameType.code_of_ofCode? known
    have front (flags : Flags) (fits : flags.bits.toNat < 1024) :
        Alike type.keptBits (encodeHeader id type flags)
          (f₀ ++ (f₁ ++ (f₂ ++ ByteArray.empty))) := by
      rw [none₀, h₁, h₂, ByteArray.empty_append, ByteArray.append_empty, encodeHeader, low]
      refine (encodeNat_alike_low31 rfl (by omega)).append (encodeNat_alike_flags ?_ ?_ ?_)
      · rw [size_encodeNat]
        rfl
      · rw [size_encodeNat]
        rfl
      · omega
    change Spells (if misplaced id type = true then _ else _ : Reader Header) _ _
    split
    · exact spells_bind (P := fun _ _ _ => False) (spells_throw _) fun _ _ _ never => never.elim
    · exact spells_pure front

end Reader

/-- A frame that was read can be written, and is read again as the same frame. It is written as the
front of the bytes that it was read from, as far as the bits of its type are kept; something stands
behind the front only if the fields of the frame end early. -/
theorem encode_decode {bytes : ByteArray} {f : Frame} (h : Frame.decode bytes = .ok f) :
    ∃ again : ByteArray, f.encode = .ok again ∧ Frame.decode again = .ok f ∧
      ∃ shorter : again.size ≤ bytes.size,
        (∀ i (inside : i < again.size),
          again[i] &&& f.type.keptBits i = bytes[i] &&& f.type.keptBits i) ∧
        (again.size < bytes.size → f.EndsEarly) := by
  unfold Frame.decode StateT.run' at h
  generalize hr : (Reader.header >>= Reader.body) bytes = read at h
  cases read with
  | error e => contradiction
  | ok result =>
    obtain ⟨g, left⟩ := result
    cases h
    obtain ⟨⟨head, mid⟩, hh, hb⟩ := bind_ok hr
    obtain ⟨low, placed⟩ := Reader.header_yields _ _ _ hh
    obtain ⟨front, rfl, alike⟩ := Reader.header_spells _ _ _ hh
    obtain ⟨used, rfl, restores⟩ := Reader.body_restores ⟨low, placed⟩ _ _ _ hb
    obtain ⟨again, fields, tail, written, same, split, early⟩ := restores.written
    have total := (alike _ g.writtenFlags_lt).append
      (show Alike (fun i => head.type.keptBits (i + (encodeHeader _ _ _).size)) again fields by
        simpa only [encodeHeader, ByteArray.size_append, size_encodeNat] using same)
    refine ⟨_, written, (decode_iff written).mpr restores.canonical, ?_⟩
    rw [restores.type, split, ← ByteArray.append_assoc]
    exact total.of_append early

/-- A request for five items, with all reserved bits and all flags set and a byte behind it: the
byte is lost, and ten bytes are left that agree with what was read. -/
theorem encode_decode_requestN :
    let bytes : ByteArray := ⟨#[0x80, 0, 0, 1, 0x23, 0xFF, 0x80, 0, 0, 5, 7]⟩
    let f : Frame := .requestN 1 5
    Frame.decode bytes = .ok f ∧ ∃ again : ByteArray, f.encode = .ok again ∧
      Frame.decode again = .ok f ∧ again.size < bytes.size ∧ f.EndsEarly ∧
      ∃ shorter : again.size ≤ bytes.size, ∀ i (inside : i < again.size),
        again[i] &&& f.type.keptBits i = bytes[i] &&& f.type.keptBits i := by
  have read : Frame.decode ⟨#[0x80, 0, 0, 1, 0x23, 0xFF, 0x80, 0, 0, 5, 7]⟩ =
      .ok (.requestN 1 5) := rfl
  obtain ⟨again, written, back, shorter, kept, early⟩ := encode_decode read
  have less : again.size < 11 := by
    cases written
    decide
  exact ⟨read, again, written, back, less, early less, shorter, kept⟩

end StreamMux
