import StreamMux.Frame.Decode

/-!
# Frames that survive the wire

Encoding is not faithful to every frame: ids and counts lose their top bit, durations become whole
milliseconds, flags are written on some types only, and an error code that spells a named number
comes back under its name. `Frame.Canonical` says which frames lose nothing, and those are exactly
the ones that decoding gives back (`decode_encode_iff_canonical`).
-/
namespace StreamMux

theorem bind_ok {ε α β : Type} {x : Except ε α} {k : α → Except ε β} {b : β}
    (h : x >>= k = .ok b) : ∃ a, x = .ok a ∧ k a = .ok b := by
  cases x with
  | error e => contradiction
  | ok a => exact ⟨a, rfl, h⟩

/-- A number without its top bit. -/
def low31 (n : UInt32) : UInt32 := UInt32.ofNat (n.toNat % 2 ^ 31)

theorem low31_eq_iff (n : UInt32) : low31 n = n ↔ n ≤ 0x7FFFFFFF := by
  have size := n.toNat_lt
  have bound : (0x7FFFFFFF : UInt32).toNat = 2 ^ 31 - 1 := rfl
  rw [← UInt32.toNat_inj, low31, UInt32.toNat_ofNat', UInt32.le_iff_toNat_le, bound]
  omega

theorem toNat_low31 (n : UInt32) : (low31 n).toNat = n.toNat % 2 ^ 31 := by
  have size := n.toNat_lt
  rw [low31, UInt32.toNat_ofNat']
  omega

theorem low31_low31 (n : UInt32) : low31 (low31 n) = low31 n := by
  rw [← UInt32.toNat_inj, toNat_low31, toNat_low31, Nat.mod_mod]

theorem fromUTF8?_toUTF8 (text : String) : String.fromUTF8? text.toUTF8 = some text := by
  have valid : text.toUTF8.IsValidUTF8 := text.isValidUTF8
  rw [String.fromUTF8?, dif_pos valid]
  rfl

namespace Reader

/-! ### Reading what was written -/

theorem bind_of {α β : Type} {r : Reader α} {k : α → Reader β} {bytes left : ByteArray} {a : α}
    (h : r bytes = .ok (a, left)) : (r >>= k) bytes = k a left := by
  simp [bind, StateT.bind, h, Except.bind]

theorem pure_apply {α : Type} (a : α) (bytes : ByteArray) :
    (pure a : Reader α) bytes = .ok (a, bytes) := rfl

theorem take_append {count : Nat} {a b : ByteArray} (size : a.size = count) :
    take count (a ++ b) = .ok (a, b) := by
  have enough : ¬ (a ++ b).size < count := by
    rw [ByteArray.size_append]
    omega
  rw [take, if_neg enough, ByteArray.extract_append_eq_left size.symm,
    ByteArray.extract_append_eq_right size.symm ByteArray.size_append]

theorem require_of_size {count : Nat} {bytes : ByteArray} (enough : count ≤ bytes.size) :
    require count bytes = .ok ((), bytes) := by
  rw [require, if_neg (Nat.not_lt_of_le enough)]

theorem number_encodeNat (count n : Nat) (b : ByteArray) :
    number count (encodeNat count n ++ b) = .ok (n % 256 ^ count, b) := by
  rw [number, bind_of (take_append (size_encodeNat count n)), pure_apply, decodeNat_encodeNat]

/-- The top bit of a number in four bytes is reserved. -/
theorem number31_encodeNat (n : Nat) (b : ByteArray) :
    number31 (encodeNat 4 n ++ b) = .ok (UInt32.ofNat (n % 2 ^ 31), b) := by
  rw [number31, bind_of (number_encodeNat 4 n b), pure_apply]
  have low : n % 256 ^ 4 % 2 ^ 31 = n % 2 ^ 31 := by omega
  rw [low]

theorem millis_encodeNat (n : Nat) (b : ByteArray) :
    millis (encodeNat 4 n ++ b) = .ok (Duration.ofMillis (n % 256 ^ 4), b) := by
  rw [millis, bind_of (number_encodeNat 4 n b), pure_apply]

/-- A byte string that stands behind its length. -/
theorem sized_append {count : Nat} {a : ByteArray} (fits : a.size < 256 ^ count) (b : ByteArray) :
    (do take (← number count) : Reader ByteArray) (encodeNat count a.size ++ (a ++ b)) =
      .ok (a, b) := by
  rw [bind_of (number_encodeNat count a.size _), Nat.mod_eq_of_lt fits, take_append rfl]

theorem map_of {α β : Type} {r : Reader α} {f : α → β} {bytes left : ByteArray} {a : α}
    (h : r bytes = .ok (a, left)) : (f <$> r) bytes = .ok (f a, left) := by
  simp [Functor.map, StateT.map, h, Except.bind, bind, pure, Except.pure]

theorem mime_encodeMime {text : String} {bytes : ByteArray} (h : encodeMime text = .ok bytes)
    (b : ByteArray) : mime (bytes ++ b) = .ok (text, b) := by
  unfold encodeMime at h
  split at h
  next fits =>
    cases h
    have size : text.toUTF8.size = text.utf8ByteSize := rfl
    have length : text.utf8ByteSize % 256 ^ 1 = text.utf8ByteSize :=
      Nat.mod_eq_of_lt (Nat.lt_succ_of_le fits.2)
    rw [ByteArray.append_assoc, mime, bind_of (number_encodeNat 1 _ _), length,
      bind_of (take_append size), fromUTF8?_toUTF8]
    dsimp only
    rw [if_pos fits.1, pure_apply]
  · contradiction

theorem payload_encodePayload {p : Payload} {bytes : ByteArray} (h : encodePayload p = .ok bytes) :
    payload p.hasMetadata bytes = .ok (p, ByteArray.empty) := by
  obtain ⟨data, metadata⟩ := p
  unfold encodePayload at h
  cases metadata with
  | none =>
    cases h
    rfl
  | some metadata =>
    dsimp only at h
    split at h
    next fits =>
      cases h
      have length : metadata.size < 256 ^ 3 := Nat.lt_succ_of_le fits
      have read := map_of (f := some) (sized_append length data)
      change payload true _ = _
      rw [payload, if_pos rfl, ByteArray.append_assoc, bind_of read]
      rfl
    · contradiction

/-! ### The header -/

/-- A frame of this type cannot stand on this stream. -/
def misplaced (id : UInt32) (type : FrameType) : Bool :=
  if type.isConnectionLevel then id != 0 else type != .error && id == 0

theorem header_encodeHeader (id : UInt32) (type : FrameType) {flags : Flags}
    (fits : flags.bits.toNat < 1024) (b : ByteArray) :
    header (encodeHeader id type flags ++ b) =
      if misplaced (low31 id) type then .error (.badStreamId (low31 id) type)
      else .ok ({ id := low31 id, type, flags }, b) := by
  have code := type.code_lt
  have word : (type.code * 1024 + flags.bits.toNat) % 256 ^ 2 =
      type.code * 1024 + flags.bits.toNat := by omega
  have high : (type.code * 1024 + flags.bits.toNat) / 1024 = type.code := by omega
  have low : (type.code * 1024 + flags.bits.toNat) % 1024 = flags.bits.toNat := by omega
  have masked : id.toNat % 2 ^ 31 % 2 ^ 31 = id.toNat % 2 ^ 31 := by omega
  have enough : 6 ≤ (encodeHeader id type flags ++ b).size := by
    simp only [encodeHeader, ByteArray.size_append, size_encodeNat]
    omega
  rw [header, bind_of (require_of_size enough), encodeHeader, ByteArray.append_assoc,
    bind_of (number31_encodeNat _ _), bind_of (number_encodeNat 2 _ _), word, high, low, masked,
    FrameType.ofCode?_code]
  dsimp only
  rw [UInt16.ofNat_toNat]
  change (if misplaced (low31 id) type = true then _ else _ : Reader Header) b = _
  cases misplaced (low31 id) type with
  | true => rfl
  | false => rfl

end Reader

/-- A header decides what the bytes behind it are read as. -/
theorem decode_encodeHeader (id : UInt32) (type : FrameType) {flags : Flags}
    (fits : flags.bits.toNat < 1024) (b : ByteArray) :
    Frame.decode (encodeHeader id type flags ++ b) =
      if Reader.misplaced (low31 id) type then .error (.badStreamId (low31 id) type)
      else (Reader.body { id := low31 id, type, flags } b).map (·.1) := by
  have head := Reader.header_encodeHeader id type fits b
  unfold Frame.decode StateT.run'
  cases wrong : Reader.misplaced (low31 id) type with
  | true =>
    rw [if_pos wrong] at head
    simp [bind, StateT.bind, head, Except.bind, Functor.map, Except.map]
  | false =>
    rw [wrong, if_neg Bool.false_ne_true] at head
    rw [Reader.bind_of head]
    rfl

/-! ### Flags -/

/-- The three flags of a SETUP are independent. -/
theorem setup_flags (s : Setup) :
    s.flags.bits.toNat < 1024 ∧ s.flags.metadata = s.payload.hasMetadata ∧
      s.flags.contains Flags.resumeBit = s.resumeToken.isSome ∧
      s.flags.contains Flags.leaseBit = s.lease := by
  unfold Setup.flags
  cases s.payload.hasMetadata <;> cases s.resumeToken.isSome <;> cases s.lease <;> decide

/-- The four flags of a frame with a payload are independent. -/
theorem payload_flags (f : PayloadFrame) :
    f.flags.bits.toNat < 1024 ∧ f.flags.metadata = f.payload.hasMetadata ∧
      f.flags.follows = f.follows ∧
      f.flags.complete = (f.complete && (f.type = .requestChannel || f.type = .payload)) ∧
      f.flags.next = (f.next && f.type = .payload) := by
  unfold PayloadFrame.flags
  generalize (f.complete && (decide (f.type = .requestChannel) || decide (f.type = .payload))) =
    complete
  generalize (f.next && decide (f.type = .payload)) = next
  cases f.payload.hasMetadata <;> cases f.follows <;> cases complete <;> cases next <;> decide

/-! ### Canonical frames -/

/-- Whole milliseconds that fit into 32 bits. -/
def Duration.IsWire (d : Duration) : Prop := ∃ ms ≤ 0xFFFFFFFF, d = Duration.ofMillis ms

/-- The numbers that error codes have names for. -/
def ErrorCode.namedNumbers : List UInt32 :=
  [0x001, 0x002, 0x003, 0x004, 0x101, 0x102, 0x201, 0x202, 0x203, 0x204]

/-- A number of 31 bits, and not the id of the connection. -/
def IsStreamId (id : UInt32) : Prop := 1 ≤ id ∧ id ≤ 0x7FFFFFFF

/-- Nothing of a frame with a payload gets lost on the wire. -/
structure PayloadFrame.Canonical (f : PayloadFrame) : Prop where
  type : f.type.opensStream = true ∨ f.type = .payload
  id : IsStreamId f.id
  complete : f.complete = true → f.type = .requestChannel ∨ f.type = .payload
  next : f.next = true → f.type = .payload
  initial : if f.type.hasInitialRequest then f.initial ≤ 0x7FFFFFFF else f.initial = 0

/-- Nothing of a frame gets lost on the wire. -/
def Frame.Canonical : Frame → Prop
  | .setup s => s.keepAlive.IsWire ∧ s.lifetime.IsWire
  | .lease ttl _ _ => ttl.IsWire
  | .keepAlive .. | .metadataPush _ => True
  | .payload f => f.Canonical
  | .requestN id n => IsStreamId id ∧ n ≤ 0x7FFFFFFF
  | .cancel id => IsStreamId id
  | .error id code _ =>
    id ≤ 0x7FFFFFFF ∧ ∀ number, code = .custom number → number ∉ ErrorCode.namedNumbers

theorem toWireMillis_mod (d : Duration) : d.toWireMillis % 256 ^ 4 = d.toWireMillis := by
  unfold Duration.toWireMillis
  omega

/-- A duration comes back from the wire if and only if it fits there. -/
theorem ofMillis_toWireMillis_iff (d : Duration) :
    Duration.ofMillis d.toWireMillis = d ↔ d.IsWire := by
  constructor
  · intro same
    refine ⟨d.toWireMillis, ?_, same.symm⟩
    unfold Duration.toWireMillis
    omega
  · rintro ⟨ms, fits, rfl⟩
    rw [Duration.toWireMillis, Duration.millis_ofMillis, Nat.min_eq_left fits]

/-- A number without a name stays a custom code. -/
theorem ofCode_custom_iff (number : UInt32) :
    ErrorCode.ofCode number = .custom number ↔ number ∉ ErrorCode.namedNumbers := by
  constructor
  · intro same member
    simp only [ErrorCode.namedNumbers, List.mem_cons, List.not_mem_nil, or_false] at member
    rcases member with rfl | rfl | rfl | rfl | rfl | rfl | rfl | rfl | rfl | rfl <;> contradiction
  · intro unnamed
    simp only [ErrorCode.namedNumbers, List.mem_cons, List.not_mem_nil, or_false, not_or] at unnamed
    simp [ErrorCode.ofCode, unnamed]

/-- An error code comes back from the wire unless it spells a named number. -/
theorem ofCode_code_iff (code : ErrorCode) :
    ErrorCode.ofCode code.code = code ↔
      ∀ number, code = .custom number → number ∉ ErrorCode.namedNumbers := by
  cases code with
  | custom number =>
    rw [ErrorCode.code, ofCode_custom_iff]
    simp
  | _ => simp [ErrorCode.ofCode, ErrorCode.code]

/-! ### Each frame and what it is read as -/

/-- The optional token of a SETUP, and what is read after it. -/
theorem Reader.token_encodeToken {token : Option ByteArray} {bytes : ByteArray}
    (h : encodeToken token = .ok bytes) {α : Type} (k : Option ByteArray → Reader α)
    (b : ByteArray) :
    (if token.isSome then (some <$> do take (← number 2)) >>= k else pure none >>= k)
      (bytes ++ b) = k token b := by
  cases token with
  | none =>
    cases h
    rw [ByteArray.empty_append]
    rfl
  | some token =>
    unfold encodeToken at h
    split at h
    · contradiction
    next held =>
      cases held
      split at h
      next fits =>
        cases h
        have length : token.size < 256 ^ 2 := Nat.lt_succ_of_le fits
        rw [Option.isSome_some, if_pos rfl, ByteArray.append_assoc,
          bind_of (map_of (sized_append length b))]
      · contradiction

/-- The parts of an encoded SETUP. -/
theorem encode_setup_ok {s : Setup} {bytes : ByteArray} (h : s.encode = .ok bytes) :
    ∃ token metadataMime dataMime payload, encodeToken s.resumeToken = .ok token ∧
      encodeMime s.metadataMime = .ok metadataMime ∧ encodeMime s.dataMime = .ok dataMime ∧
      encodePayload s.payload = .ok payload ∧
      bytes = encodeHeader 0 .setup s.flags ++ (encodeNat 2 s.major.toNat ++
        (encodeNat 2 s.minor.toNat ++ (encodeNat 4 s.keepAlive.toWireMillis ++
        (encodeNat 4 s.lifetime.toWireMillis ++ (token ++ (metadataMime ++
        (dataMime ++ payload))))))) := by
  unfold Setup.encode at h
  obtain ⟨token, ht, h⟩ := bind_ok h
  obtain ⟨metadataMime, hm, h⟩ := bind_ok h
  obtain ⟨dataMime, hd, h⟩ := bind_ok h
  obtain ⟨payload, hp, h⟩ := bind_ok h
  cases h
  exact ⟨token, metadataMime, dataMime, payload, ht, hm, hd, hp,
    by simp only [ByteArray.append_assoc]⟩

theorem decode_setup {s : Setup} {bytes : ByteArray} (h : s.encode = .ok bytes) :
    Frame.decode bytes = .ok (.setup { s with
      keepAlive := Duration.ofMillis s.keepAlive.toWireMillis
      lifetime := Duration.ofMillis s.lifetime.toWireMillis }) := by
  obtain ⟨token, metadataMime, dataMime, payload, ht, hm, hd, hp, rfl⟩ := encode_setup_ok h
  obtain ⟨fits, metadata, resumes, leases⟩ := setup_flags s
  have major : s.major.toNat % 256 ^ 2 = s.major.toNat := Nat.mod_eq_of_lt s.major.toNat_lt
  have minor : s.minor.toNat % 256 ^ 2 = s.minor.toNat := Nat.mod_eq_of_lt s.minor.toNat_lt
  rw [decode_encodeHeader _ _ fits, if_neg (by decide)]
  dsimp only [Reader.body]
  rw [Reader.setup, Reader.bind_of (Reader.require_of_size ?_),
    Reader.bind_of (Reader.number_encodeNat _ _ _), major,
    Reader.bind_of (Reader.number_encodeNat _ _ _), minor,
    Reader.bind_of (Reader.millis_encodeNat _ _), toWireMillis_mod,
    Reader.bind_of (Reader.millis_encodeNat _ _), toWireMillis_mod]
  · dsimp only
    rw [resumes, Reader.token_encodeToken ht, Reader.bind_of (Reader.mime_encodeMime hm _),
      Reader.bind_of (Reader.mime_encodeMime hd _), metadata,
      Reader.bind_of (Reader.payload_encodePayload hp), Reader.pure_apply, leases,
      UInt16.ofNat_toNat, UInt16.ofNat_toNat]
    rfl
  · simp only [ByteArray.size_append, size_encodeNat]
    omega

theorem decode_lease {ttl : Duration} {requests : UInt32} {metadata : Option ByteArray}
    {bytes : ByteArray} (h : (Frame.lease ttl requests metadata).encode = .ok bytes) :
    Frame.decode bytes =
      .ok (.lease (Duration.ofMillis ttl.toWireMillis) requests metadata) := by
  have fits : (Flags.none.setIf Flags.metadataBit metadata.isSome).bits.toNat < 1024 := by
    cases metadata.isSome <;> decide
  have announced : (Flags.none.setIf Flags.metadataBit metadata.isSome).metadata =
      metadata.isSome := by
    cases metadata.isSome <;> decide
  have count : requests.toNat % 256 ^ 4 = requests.toNat := Nat.mod_eq_of_lt requests.toNat_lt
  cases h
  rw [ByteArray.append_assoc, ByteArray.append_assoc, decode_encodeHeader _ _ fits,
    if_neg (by decide)]
  dsimp only [Reader.body]
  have enough : 8 ≤ (encodeNat 4 ttl.toWireMillis ++ (encodeNat 4 requests.toNat ++
      metadata.getD ByteArray.empty)).size := by
    simp only [ByteArray.size_append, size_encodeNat]
    omega
  rw [Reader.lease, Reader.bind_of (Reader.require_of_size enough),
    Reader.bind_of (Reader.millis_encodeNat _ _), toWireMillis_mod,
    Reader.bind_of (Reader.number_encodeNat _ _ _), count, announced]
  rw [UInt32.ofNat_toNat]
  cases metadata with
  | none => rfl
  | some metadata => rfl

theorem decode_keepAlive {respond : Bool} {position : UInt64} {data bytes : ByteArray}
    (h : (Frame.keepAlive respond position data).encode = .ok bytes) :
    Frame.decode bytes = .ok (.keepAlive respond position data) := by
  have fits : (Flags.none.setIf Flags.respondBit respond).bits.toNat < 1024 := by
    cases respond <;> decide
  have wanted : (Flags.none.setIf Flags.respondBit respond).contains Flags.respondBit =
      respond := by
    cases respond <;> decide
  have place : position.toNat % 256 ^ 8 = position.toNat := Nat.mod_eq_of_lt position.toNat_lt
  cases h
  rw [ByteArray.append_assoc, decode_encodeHeader _ _ fits, if_neg (by decide)]
  dsimp only [Reader.body]
  rw [Reader.keepAlive, Reader.bind_of (Reader.number_encodeNat _ _ _), place, wanted,
    UInt64.ofNat_toNat]
  rfl

theorem decode_metadataPush {metadata bytes : ByteArray}
    (h : (Frame.metadataPush metadata).encode = .ok bytes) :
    Frame.decode bytes = .ok (.metadataPush metadata) := by
  cases h
  rw [decode_encodeHeader _ _ (by decide), if_neg (by decide)]
  rfl

/-- A frame of a stream is refused on the connection's own id. -/
theorem misplaced_iff (type : FrameType) (id : UInt32) (level : type.isConnectionLevel = false)
    (other : type ≠ .error) : Reader.misplaced id type = true ↔ id = 0 := by
  simp [Reader.misplaced, level, other]

theorem decode_requestN {id n : UInt32} {bytes : ByteArray}
    (h : (Frame.requestN id n).encode = .ok bytes) :
    Frame.decode bytes =
      if low31 id = 0 then .error (.badStreamId (low31 id) .requestN)
      else .ok (.requestN (low31 id) (low31 n)) := by
  cases h
  rw [decode_encodeHeader _ _ (by decide)]
  simp only [misplaced_iff .requestN (low31 id) rfl (by decide)]
  split
  · rfl
  · dsimp only [Reader.body]
    have read := Reader.number31_encodeNat n.toNat ByteArray.empty
    rw [ByteArray.append_empty] at read
    rw [Reader.bind_of read]
    rfl

theorem decode_cancel {id : UInt32} {bytes : ByteArray}
    (h : (Frame.cancel id).encode = .ok bytes) :
    Frame.decode bytes =
      if low31 id = 0 then .error (.badStreamId (low31 id) .cancel)
      else .ok (.cancel (low31 id)) := by
  cases h
  rw [← ByteArray.append_empty (b := encodeHeader id .cancel Flags.none),
    decode_encodeHeader _ _ (by decide)]
  simp only [misplaced_iff .cancel (low31 id) rfl (by decide)]
  split
  · rfl
  · rfl

theorem decode_error {id : UInt32} {code : ErrorCode} {message : String} {bytes : ByteArray}
    (h : (Frame.error id code message).encode = .ok bytes) :
    Frame.decode bytes =
      .ok (.error (low31 id) (ErrorCode.ofCode code.code) message) := by
  have number : code.code.toNat % 256 ^ 4 = code.code.toNat := Nat.mod_eq_of_lt code.code.toNat_lt
  cases h
  rw [ByteArray.append_assoc, decode_encodeHeader _ _ (by decide),
    if_neg (by simp [Reader.misplaced, FrameType.isConnectionLevel])]
  dsimp only [Reader.body]
  rw [Reader.errorFrame, Reader.bind_of (Reader.number_encodeNat _ _ _), number,
    Reader.bind_of (show Reader.rest _ = .ok (message.toUTF8, ByteArray.empty) from rfl),
    fromUTF8?_toUTF8, UInt32.ofNat_toNat]
  rfl

/-! ### Frames with a payload -/

/-- What a frame with a payload is read as. -/
def PayloadFrame.asRead (f : PayloadFrame) : PayloadFrame :=
  { f with
    id := low31 f.id
    complete := f.complete && (f.type = .requestChannel || f.type = .payload)
    next := f.next && f.type = .payload
    initial := if f.type.hasInitialRequest then low31 f.initial else 0 }

/-- The types of frame that carry a payload. -/
def FrameType.carries (type : FrameType) : Prop := type.opensStream = true ∨ type = .payload

/-- Only a frame of a stream carries a payload. -/
theorem FrameType.carries.of_stream {type : FrameType} (carries : type.carries) :
    type.isConnectionLevel = false ∧ type ≠ .error := by
  unfold FrameType.carries at carries
  cases type <;> simp_all [FrameType.opensStream, FrameType.isConnectionLevel]

theorem payloadFrame_encode {f : PayloadFrame} {payload : ByteArray}
    (h : encodePayload f.payload = .ok payload) :
    Reader.payloadFrame { id := low31 f.id, type := f.type, flags := f.flags }
      ((if f.type.hasInitialRequest then encodeNat 4 f.initial.toNat else ByteArray.empty) ++
        payload) = .ok (.payload f.asRead, ByteArray.empty) := by
  obtain ⟨_, metadata, follows, complete, next⟩ := payload_flags f
  unfold Reader.payloadFrame PayloadFrame.asRead
  dsimp only
  split
  next initial =>
    rw [Reader.bind_of (Reader.number31_encodeNat _ _), metadata,
      Reader.bind_of (Reader.payload_encodePayload h), Reader.pure_apply, follows, complete, next]
    simp only [Bool.and_assoc, Bool.and_self]
    rfl
  next none =>
    rw [ByteArray.empty_append, Reader.bind_of (Reader.pure_apply _ _), metadata,
      Reader.bind_of (Reader.payload_encodePayload h), Reader.pure_apply, follows, complete, next]
    simp only [Bool.and_assoc, Bool.and_self]

theorem decode_payload {f : PayloadFrame} {bytes : ByteArray}
    (h : (Frame.payload f).encode = .ok bytes) (carries : f.type.carries) :
    Frame.decode bytes =
      if low31 f.id = 0 then .error (.badStreamId (low31 f.id) f.type)
      else .ok (.payload f.asRead) := by
  obtain ⟨payload, hp, eq⟩ := bind_ok (show f.encode = _ from h)
  cases eq
  have level := carries.of_stream
  have body : Reader.body { id := low31 f.id, type := f.type, flags := f.flags } =
      Reader.payloadFrame { id := low31 f.id, type := f.type, flags := f.flags } := by
    unfold FrameType.carries at carries
    unfold Reader.body
    cases type : f.type <;> simp_all [FrameType.opensStream]
  rw [ByteArray.append_assoc, decode_encodeHeader _ _ (payload_flags f).1, body,
    payloadFrame_encode hp]
  simp only [misplaced_iff _ _ level.1 level.2]
  rfl

/-- All that a reader gives has a property. -/
def Reader.Yields {α : Type} (P : α → Prop) (r : Reader α) : Prop :=
  ∀ bytes a left, r bytes = .ok (a, left) → P a

theorem Reader.yields_bind {α β : Type} {P : β → Prop} {r : Reader α} {k : α → Reader β}
    (h : ∀ a, (k a).Yields P) : (r >>= k).Yields P := by
  intro bytes b left read
  obtain ⟨⟨a, mid⟩, _, rest⟩ := bind_ok read
  exact h a mid b left rest

theorem Reader.yields_pure {α : Type} {P : α → Prop} {a : α} (h : P a) :
    (pure a : Reader α).Yields P := by
  intro bytes b left read
  cases read
  exact h

theorem Reader.yields_throw {α : Type} {P : α → Prop} (e : FrameError) :
    (throw e : Reader α).Yields P := by
  intro bytes b left read
  cases read

/-- What is read after a header: the id is the header's, and only the types that carry a payload are
read as frames with one. -/
def Header.Describes (h : Header) (f : Frame) : Prop :=
  f.id = (if h.type.isConnectionLevel then 0 else h.id) ∧ ∀ g, f = .payload g → h.type.carries

theorem Reader.payloadFrame_yields {h : Header} (carries : h.type.carries) :
    (payloadFrame h).Yields h.Describes := by
  have level := carries.of_stream.1
  have last (initial : UInt32) :
      (do
        let payload ← payload h.flags.metadata
        return .payload {
          type := h.type, id := h.id, follows := h.flags.follows
          complete := h.flags.complete && (h.type = .requestChannel || h.type = .payload)
          next := h.flags.next && h.type = .payload
          initial, payload } : Reader Frame).Yields h.Describes :=
    yields_bind fun _ => yields_pure ⟨by simp [Frame.id, level], fun _ _ => carries⟩
  unfold payloadFrame
  dsimp only
  split
  · exact yields_bind fun initial => last initial
  · exact yields_bind fun initial => last initial

theorem Reader.setup_yields {h : Header} (type : h.type = .setup) :
    (setup h.flags).Yields h.Describes := by
  have last (token : Option ByteArray) (major minor : Nat) (keepAlive lifetime : Duration) :
      (do
        let metadataMime ← mime
        let dataMime ← mime
        let payload ← payload h.flags.metadata
        return .setup {
          major := UInt16.ofNat major, minor := UInt16.ofNat minor, keepAlive, lifetime
          resumeToken := token, lease := h.flags.contains Flags.leaseBit, metadataMime
          dataMime, payload } : Reader Frame).Yields h.Describes :=
    yields_bind fun _ => yields_bind fun _ => yields_bind fun _ => yields_pure
      ⟨by simp [Frame.id, type, FrameType.isConnectionLevel], by simp⟩
  unfold setup
  refine yields_bind fun _ => yields_bind fun _ => yields_bind fun _ => yields_bind fun _ =>
    yields_bind fun _ => ?_
  dsimp only
  split
  · exact yields_bind fun token => last token _ _ _ _
  · exact yields_bind fun token => last token _ _ _ _

theorem Reader.body_yields (h : Header) : (body h).Yields h.Describes := by
  have plain {f : Frame} (id : f.id = if h.type.isConnectionLevel then 0 else h.id)
      (other : ∀ g, f ≠ .payload g) : h.Describes f := ⟨id, fun g same => absurd same (other g)⟩
  unfold body
  split
  next type => exact setup_yields type
  next type =>
    exact yields_bind fun _ => yields_bind fun _ => yields_bind fun _ => yields_bind fun _ =>
      yields_pure (plain (by simp [Frame.id, type, FrameType.isConnectionLevel]) (by simp))
  next type =>
    exact yields_bind fun _ => yields_bind fun _ => yields_pure
      (plain (by simp [Frame.id, type, FrameType.isConnectionLevel]) (by simp))
  next type =>
    exact yields_bind fun _ => yields_pure
      (plain (by simp [Frame.id, type, FrameType.isConnectionLevel]) (by simp))
  next type => exact payloadFrame_yields (.inl (by rw [type]; rfl))
  next type => exact payloadFrame_yields (.inl (by rw [type]; rfl))
  next type => exact payloadFrame_yields (.inl (by rw [type]; rfl))
  next type => exact payloadFrame_yields (.inl (by rw [type]; rfl))
  next type => exact payloadFrame_yields (.inr type)
  next type =>
    exact yields_bind fun _ => yields_pure
      (plain (by simp [Frame.id, type, FrameType.isConnectionLevel]) (by simp))
  next type =>
    exact yields_pure (plain (by simp [Frame.id, type, FrameType.isConnectionLevel]) (by simp))
  next type =>
    refine yields_bind fun _ => yields_bind fun _ => ?_
    split
    · exact yields_throw _
    · exact yields_pure (plain (by simp [Frame.id, type, FrameType.isConnectionLevel]) (by simp))
  · exact yields_throw _
  · exact yields_throw _
  · exact yields_throw _

/-- A frame with a payload whose type cannot carry one does not come back. -/
theorem decode_payload_ne {f : PayloadFrame} {bytes : ByteArray}
    (h : (Frame.payload f).encode = .ok bytes) (other : ¬ f.type.carries) :
    Frame.decode bytes ≠ .ok (.payload f) := by
  obtain ⟨payload, _, eq⟩ := bind_ok (show f.encode = _ from h)
  cases eq
  rw [ByteArray.append_assoc, decode_encodeHeader _ _ (payload_flags f).1]
  split
  · exact fun same => by contradiction
  · intro same
    generalize hr : Reader.body _ _ = read at same
    cases read with
    | error e => contradiction
    | ok result =>
      obtain ⟨g, left⟩ := result
      cases same
      exact other ((Reader.body_yields _ _ _ _ hr).2 f rfl)

/-- An id of a stream comes back from the wire, and stands on a stream. -/
theorem isStreamId_iff (id : UInt32) : IsStreamId id ↔ low31 id = id ∧ low31 id ≠ 0 := by
  rw [IsStreamId, ← low31_eq_iff]
  constructor
  · rintro ⟨positive, same⟩
    refine ⟨same, ?_⟩
    rw [same]
    rintro rfl
    contradiction
  · rintro ⟨same, positive⟩
    rw [same] at positive
    refine ⟨?_, same⟩
    rw [UInt32.le_iff_toNat_le]
    have nonzero : id.toNat ≠ 0 := fun zero => positive (UInt32.toNat_inj.mp zero)
    exact Nat.pos_of_ne_zero nonzero

theorem isStreamId_iff_lt (id : UInt32) : IsStreamId id ↔ id ≠ 0 ∧ id.toNat < 2 ^ 31 := by
  have value := toNat_low31 id
  rw [isStreamId_iff]
  constructor
  · rintro ⟨same, nonzero⟩
    rw [same] at value nonzero
    exact ⟨nonzero, by omega⟩
  · rintro ⟨nonzero, small⟩
    have same : low31 id = id := by
      rw [← UInt32.toNat_inj]
      omega
    exact ⟨same, by rwa [same]⟩

theorem asRead_eq_iff {f : PayloadFrame} (carries : f.type.carries) :
    low31 f.id ≠ 0 ∧ f.asRead = f ↔ f.Canonical := by
  obtain ⟨type, id, follows, complete, next, initial, payload⟩ := f
  simp only [PayloadFrame.asRead, PayloadFrame.mk.injEq, true_and, and_true, ne_eq]
  constructor
  · rintro ⟨positive, same, ends, item, count⟩
    refine ⟨carries, (isStreamId_iff id).mpr ⟨same, positive⟩, fun h => ?_, fun h => ?_, ?_⟩
    · simpa [show complete = true from h] using ends
    · simpa [show next = true from h] using item
    · dsimp only
      split at count
      next asks => rwa [if_pos asks, ← low31_eq_iff]
      next silent => rw [if_neg silent, ← count]
  · rintro ⟨_, isStream, ends, item, count⟩
    dsimp only at isStream ends item count
    obtain ⟨same, positive⟩ := (isStreamId_iff id).mp isStream
    refine ⟨positive, same, ?_, ?_, ?_⟩
    · cases complete with
      | false => rfl
      | true => simpa using ends rfl
    · cases next with
      | false => rfl
      | true => simpa using item rfl
    · split at count
      next asks => rwa [if_pos asks, low31_eq_iff]
      next silent => rw [if_neg silent, count]

/-- A frame comes back from the wire as it was if and only if it is canonical. -/
theorem decode_iff {f : Frame} {bytes : ByteArray} (h : f.encode = .ok bytes) :
    Frame.decode bytes = .ok f ↔ f.Canonical := by
  cases f with
  | setup s =>
    rw [decode_setup h, Frame.Canonical, ← ofMillis_toWireMillis_iff, ← ofMillis_toWireMillis_iff]
    obtain ⟨major, minor, keepAlive, lifetime, token, leases, metadataMime, dataMime, payload⟩ := s
    simp
  | lease ttl requests metadata =>
    rw [decode_lease h, Frame.Canonical, ← ofMillis_toWireMillis_iff]
    simp
  | keepAlive respond position data => simp [decode_keepAlive h, Frame.Canonical]
  | metadataPush metadata => simp [decode_metadataPush h, Frame.Canonical]
  | payload f =>
    by_cases carries : f.type.carries
    · rw [decode_payload h carries, Frame.Canonical, ← asRead_eq_iff carries]
      split
      next zero => simp [zero]
      next positive => simp [positive]
    · have lost := decode_payload_ne h carries
      exact ⟨fun same => absurd same lost, fun canonical => absurd canonical.type carries⟩
  | requestN id n =>
    rw [decode_requestN h, Frame.Canonical, isStreamId_iff, ← low31_eq_iff]
    split
    next zero => simp [zero]
    next positive => simp [positive]
  | cancel id =>
    rw [decode_cancel h, Frame.Canonical, isStreamId_iff]
    split
    next zero => simp [zero]
    next positive => simp [positive]
  | error id code message =>
    rw [decode_error h, Frame.Canonical, ← low31_eq_iff, ← ofCode_code_iff]
    simp

/-- A frame that was encoded comes back as it was if and only if it is canonical. Hence no two
canonical frames have the same bytes, and metadata that is empty is not taken for none. -/
theorem decode_encode_iff_canonical {f : Frame} {bytes : ByteArray} (h : f.encode = .ok bytes) :
    (Frame.decode bytes = .ok f ↔ f.Canonical) ∧
      (f.Canonical → ∀ g : Frame, g.Canonical → g.encode = .ok bytes → g = f) := by
  refine ⟨decode_iff h, fun canonical g other hg => ?_⟩
  have first := (decode_iff h).mpr canonical
  have second := (decode_iff hg).mpr other
  exact Except.ok.inj (second.symm.trans first)

/-- An item with empty metadata comes back with it. -/
theorem decode_encode_iff_canonical_of_empty_metadata :
    let item : Frame := .payload (.item 1 { metadata := some ByteArray.empty })
    ∃ bytes, item.encode = .ok bytes ∧ Frame.decode bytes = .ok item := by
  intro item
  have canonical : item.Canonical :=
    { type := .inr rfl
      id := ⟨by decide, by decide⟩
      complete := fun _ => .inr rfl
      next := fun _ => rfl
      initial := rfl }
  exact ⟨_, rfl, (decode_encode_iff_canonical rfl).1.mpr canonical⟩

end StreamMux
