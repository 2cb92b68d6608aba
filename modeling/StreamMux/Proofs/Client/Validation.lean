import StreamMux.ByteStream
import StreamMux.Client.Basic
import StreamMux.Proofs.Outbound.Requests

/-!
# What a client's settings are checked for, and what they are not

The settings of a client are accepted if and only if both mime types fit their places in a SETUP
frame (`ClientConfig.validate_ok_iff`), and then the client connects to any server that it reaches
(`Client.connect_ok_iff`). The payload of the SETUP frame is not looked at. So the frame can be sent
for accepted settings exactly if it is not too long as a whole (`ClientConfig.sendable_iff`). One
whose metadata is too long is dropped, and one that is too long behind its length is refused by the
transport; the client was told that it had connected (`Client.connects_unannounced`).

Source: `ClientConfig.validate`, `Setup.encode`, `encodeFramed`, `Client.connect`.
-/
namespace StreamMux

/-! ### Lengths -/

/-- The bytes that a payload takes in a frame. -/
def Payload.wireSize (p : Payload) : Nat :=
  (p.metadata.map fun metadata => 3 + metadata.size).getD 0 + p.data.size

/-- The bytes of a client's SETUP frame: twenty of fixed fields, the mime types, the payload. -/
def ClientConfig.announcementSize (c : ClientConfig) : Nat :=
  20 + c.metadataMime.utf8ByteSize + c.dataMime.utf8ByteSize + c.setup.payload.wireSize

variable {text : String} {bytes : ByteArray} {p : Payload} {c : ClientConfig}

@[simp] theorem size_encodeHeader (id : UInt32) (type : FrameType) (flags : Flags) :
    (encodeHeader id type flags).size = 6 := by
  simp [encodeHeader]

theorem size_encodeMime (h : encodeMime text = .ok bytes) : bytes.size = 1 + text.utf8ByteSize := by
  unfold encodeMime at h
  split at h
  · cases h
    rw [ByteArray.size_append, size_encodeNat]
    rfl
  · contradiction

theorem size_encodePayload (h : encodePayload p = .ok bytes) : bytes.size = p.wireSize := by
  obtain ⟨data, metadata⟩ := p
  unfold encodePayload at h
  cases metadata with
  | none =>
    cases h
    exact (Nat.zero_add _).symm
  | some metadata =>
    dsimp only at h
    split at h
    · cases h
      rw [ByteArray.size_append, ByteArray.size_append, size_encodeNat]
      rfl
    · contradiction

/-- Metadata is part of the frame: if the frame is short enough, so is the metadata. -/
theorem Payload.fits_of_wireSize (short : p.wireSize ≤ maxLength) : p.Fits := by
  intro metadata carries
  rw [wireSize, carries, Option.map_some, Option.getD_some] at short
  omega

/-! ### What is checked -/

/-- A mime type is accepted in settings if and only if it can be written. -/
theorem encodeMime_ok_iff (text : String) :
    (∃ bytes, encodeMime text = .ok bytes) ↔ ClientConfig.isMimeType text = true := by
  unfold encodeMime ClientConfig.isMimeType
  rw [Bool.and_eq_true, decide_eq_true_iff]
  split
  next fits => exact ⟨fun _ => fits, fun _ => ⟨_, rfl⟩⟩
  next odd => exact ⟨fun ⟨_, absurd⟩ => by contradiction, fun fits => absurd fits odd⟩

/-- Metadata that is too long keeps a SETUP frame from being encoded. -/
theorem Setup.encode_long {s : Setup} {metadataMime dataMime metadata : ByteArray}
    (hm : encodeMime s.metadataMime = .ok metadataMime) (hd : encodeMime s.dataMime = .ok dataMime)
    (resumes : s.resumeToken = none) (carries : s.payload.metadata = some metadata)
    (long : maxLength < metadata.size) :
    (Frame.setup s).encode = .error (.tooLarge metadata.size maxLength) := by
  change s.encode = _
  rw [Setup.encode, resumes, hm, hd, encodePayload_long carries long]
  rfl

namespace ClientConfig

/-- Settings are accepted if and only if both mime types fit. -/
theorem validate_ok_iff (c : ClientConfig) :
    c.validate = .ok () ↔ isMimeType c.metadataMime = true ∧ isMimeType c.dataMime = true := by
  unfold validate violation?
  cases isMimeType c.dataMime <;> cases isMimeType c.metadataMime <;> simp

/-- The SETUP frame can be encoded for accepted settings whose payload has no metadata that is too
long, and for no others. -/
theorem encode_setup_ok_iff (c : ClientConfig) :
    (∃ bytes, (Frame.setup c.setup).encode = .ok bytes) ↔
      c.validate = .ok () ∧ c.setup.payload.Fits := by
  rw [validate_ok_iff, ← encodeMime_ok_iff, ← encodeMime_ok_iff, ← encodePayload_ok_iff]
  constructor
  · rintro ⟨bytes, encoded⟩
    obtain ⟨_, metadataMime, dataMime, payload, _, hm, hd, hp, _⟩ := encode_setup_ok encoded
    exact ⟨⟨⟨metadataMime, hm⟩, dataMime, hd⟩, payload, hp⟩
  · rintro ⟨⟨⟨metadataMime, hm⟩, dataMime, hd⟩, payload, hp⟩
    have metadata : encodeMime c.setup.metadataMime = .ok metadataMime := hm
    have data : encodeMime c.setup.dataMime = .ok dataMime := hd
    change ∃ bytes, c.setup.encode = .ok bytes
    rw [Setup.encode, metadata, data, hp]
    exact ⟨_, rfl⟩

theorem size_encode_setup (encoded : (Frame.setup c.setup).encode = .ok bytes) :
    bytes.size = c.announcementSize := by
  obtain ⟨token, metadataMime, dataMime, payload, none, hm, hd, hp, rfl⟩ := encode_setup_ok encoded
  -- A client never asks to resume, so there is no token.
  cases none
  have metadata : metadataMime.size = 1 + c.metadataMime.utf8ByteSize := size_encodeMime hm
  have data : dataMime.size = 1 + c.dataMime.utf8ByteSize := size_encodeMime hd
  simp only [ByteArray.size_append, size_encodeHeader, size_encodeNat, ByteArray.size_empty,
    metadata, data, size_encodePayload hp, announcementSize]
  omega

/-- The SETUP frame can be sent behind its length for accepted settings if it is short enough. -/
theorem sendable_iff (c : ClientConfig) :
    (∃ framed, (Frame.setup c.setup).encodeFramed = .ok framed) ↔
      c.validate = .ok () ∧ c.announcementSize ≤ maxLength := by
  constructor
  · rintro ⟨framed, sent⟩
    obtain ⟨bytes, encoded, prefixed⟩ := bind_ok sent
    have accepted := ((encode_setup_ok_iff c).mp ⟨bytes, encoded⟩).1
    rw [encodeFramed] at prefixed
    split at prefixed
    next short => exact ⟨accepted, size_encode_setup encoded ▸ short⟩
    · contradiction
  · rintro ⟨accepted, short⟩
    have fits : c.setup.payload.Fits := by
      refine Payload.fits_of_wireSize (Nat.le_trans ?_ short)
      rw [announcementSize]
      omega
    obtain ⟨bytes, encoded⟩ := (encode_setup_ok_iff c).mpr ⟨accepted, fits⟩
    refine ⟨encodeNat 3 bytes.size ++ bytes, ?_⟩
    rw [Frame.encodeFramed, encoded]
    exact if_pos (size_encode_setup encoded ▸ short)

end ClientConfig

/-! ### Connecting -/

namespace Client

/-- A client that reaches a server connects if and only if its settings are accepted. -/
theorem connect_ok_iff {c : Client} {network : Network} {acceptor : Acceptor} {settings : Settings}
    (idle : c.isConnected = false)
    (reached : network c.config.address = .server acceptor settings) :
    (∃ connected, c.connect network = .ok connected) ↔ c.config.validate = .ok () := by
  unfold connect
  rw [idle, reached]
  cases c.config.validate with
  | error e => exact ⟨fun ⟨_, absurd⟩ => by contradiction, nofun⟩
  | ok => exact ⟨fun _ => rfl, fun _ => ⟨_, rfl⟩⟩

/-- An announcement that cannot be encoded is taken off the queue, and nothing is handed over. -/
theorem announcement_dropped {c : Client} {problem : FrameError}
    (fails : (Frame.setup c.config.setup).encode = .error problem) (out : Pipe) :
    (∀ lane, (c.endpoint.stepWrite out).1.lane lane = []) ∧
      (c.endpoint.stepWrite out).1.written = #[] ∧
      (c.endpoint.stepWrite out).1.connection.isActive = true := by
  have next : c.endpoint.connection.queue.dequeue =
      (.ready (.ok (.setup c.config.setup)), .empty) := rfl
  rw [Endpoint.stepWrite_unencodable next fails out]
  exact ⟨fun lane => by cases lane <;> rfl, rfl, rfl⟩

/-- An announcement that is encoded but too long is refused by a transport that writes lengths. -/
theorem announcement_refused {c : ClientConfig} {bytes : ByteArray}
    (encoded : (Frame.setup c.setup).encode = .ok bytes) (long : maxLength < c.announcementSize) :
    streamBytes bytes = .error (.ofFrameError (.tooLarge c.announcementSize maxLength)) := by
  have refused : encodeFramed bytes = .error (.tooLarge c.announcementSize maxLength) := by
    rw [← c.size_encode_setup encoded] at long ⊢
    exact if_neg (Nat.not_le_of_lt long)
  rw [streamBytes, refused]

/-- A client that reaches a server connects exactly if both mime types of its settings fit their
places, whatever the payload of its SETUP frame. The frame can be sent exactly if the settings are
accepted and it is not too long as a whole. Otherwise it is dropped for metadata that is too long,
and the connection goes on without it; or it is encoded, and the transport refuses it. -/
theorem connects_iff_mimes_fit (c : Client) {network : Network} {acceptor : Acceptor}
    {settings : Settings} (idle : c.isConnected = false)
    (reached : network c.config.address = .server acceptor settings) :
    ((∃ connected, c.connect network = .ok connected) ↔ c.config.validate = .ok ()) ∧
    (c.config.validate = .ok () ↔ ClientConfig.isMimeType c.config.metadataMime = true ∧
      ClientConfig.isMimeType c.config.dataMime = true) ∧
    ((∃ bytes, (Frame.setup c.config.setup).encode = .ok bytes) ↔
      c.config.validate = .ok () ∧ c.config.setup.payload.Fits) ∧
    ((∃ framed, (Frame.setup c.config.setup).encodeFramed = .ok framed) ↔
      c.config.validate = .ok () ∧ c.config.announcementSize ≤ maxLength) ∧
    (∀ problem, (Frame.setup c.config.setup).encode = .error problem → ∀ out,
      (∀ lane, (c.endpoint.stepWrite out).1.lane lane = []) ∧
        (c.endpoint.stepWrite out).1.written = #[] ∧
        (c.endpoint.stepWrite out).1.connection.isActive = true) ∧
    ∀ bytes, (Frame.setup c.config.setup).encode = .ok bytes →
      maxLength < c.config.announcementSize →
      streamBytes bytes = .error (.ofFrameError (.tooLarge c.config.announcementSize maxLength)) :=
  ⟨connect_ok_iff idle reached, c.config.validate_ok_iff, c.config.encode_setup_ok_iff,
    c.config.sendable_iff, fun _ fails out => announcement_dropped fails out,
    fun _ encoded long => announcement_refused encoded long⟩

/-- A client with the settings that it has by default connects to a server of the same kind, and its
SETUP frame of 56 bytes can be sent. -/
theorem connects_iff_mimes_fit_of_defaults :
    let c : Client := { config := { address := default } }
    let network : Network := fun _ => .server .echo {}
    (∃ connected, c.connect network = .ok connected) ∧ c.config.announcementSize = 56 ∧
      ∃ framed, (Frame.setup c.config.setup).encodeFramed = .ok framed := by
  intro c network
  have reached : network c.config.address = .server .echo {} := rfl
  have law := c.connects_iff_mimes_fit rfl reached
  have fit : ClientConfig.isMimeType "application/binary" = true := by decide +kernel
  have accepted := law.2.1.mpr ⟨fit, fit⟩
  have size : c.config.announcementSize = 56 := by decide +kernel
  exact ⟨law.1.mpr accepted, size, law.2.2.2.1.mpr ⟨accepted, by rw [size]; decide⟩⟩

/-- A client whose announcement has metadata that is too long connects, and is not announced. -/
theorem unannounced_of_long {metadata : ByteArray} (long : maxLength < metadata.size) :
    let config : ClientConfig :=
      { address := default, setupPayload := some { metadata := some metadata } }
    let c : Client := { config }
    config.validate = .ok () ∧
      (∃ connected, c.connect (fun _ => .server .echo {}) = .ok connected) ∧
      (Frame.setup config.setup).encode = .error (.tooLarge metadata.size maxLength) ∧
      (¬ ∃ framed, (Frame.setup config.setup).encodeFramed = .ok framed) ∧
      ∀ out, (c.endpoint.stepWrite out).1.written = #[] := by
  intro config c
  have fit : ClientConfig.isMimeType "application/binary" = true := by decide +kernel
  have accepted : config.validate = .ok () := config.validate_ok_iff.mpr ⟨fit, fit⟩
  obtain ⟨text, mime⟩ := (encodeMime_ok_iff "application/binary").mpr fit
  have fails : (Frame.setup config.setup).encode = .error (.tooLarge metadata.size maxLength) :=
    Setup.encode_long mime mime rfl rfl long
  let network : Network := fun _ => .server .echo {}
  have idle : c.isConnected = false := rfl
  have reached : network c.config.address = .server .echo {} := rfl
  refine ⟨accepted, (connect_ok_iff idle reached).mpr accepted, fails, ?_, fun out =>
    (announcement_dropped (c := c) fails out).2.1⟩
  rintro ⟨framed, sent⟩
  obtain ⟨bytes, encoded, _⟩ := bind_ok sent
  rw [fails] at encoded
  contradiction

/-- A client is to announce itself with metadata of one byte more than its length can say. Its
settings are accepted and it connects, but its SETUP frame cannot be encoded and is dropped. -/
theorem connects_unannounced :
    let metadata : ByteArray := ⟨Array.replicate (maxLength + 1) 0⟩
    let config : ClientConfig :=
      { address := default, setupPayload := some { metadata := some metadata } }
    let c : Client := { config }
    config.validate = .ok () ∧
      (∃ connected, c.connect (fun _ => .server .echo {}) = .ok connected) ∧
      (Frame.setup config.setup).encode = .error (.tooLarge metadata.size maxLength) ∧
      (¬ ∃ framed, (Frame.setup config.setup).encodeFramed = .ok framed) ∧
      ∀ out, (c.endpoint.stepWrite out).1.written = #[] := by
  intro metadata
  have long : maxLength < metadata.size :=
    Nat.lt_of_lt_of_eq (Nat.lt_succ_self _) Array.size_replicate.symm
  exact unannounced_of_long long

end Client
end StreamMux
