import StreamMux.Failure
import StreamMux.Proofs.Frame.RoundTrip

/-!
# Where frames land

What a frame becomes on the other side of the wire (`Frame.landed`). The stream that it is about
stays the same but for the top bit of its id, and the frames that a stream of items is made of
arrive as they were sent.
-/
namespace StreamMux

/-- The frame that some bytes are read as, if they are one. -/
def Frame.read? (bytes : ByteArray) : Option Frame := (Frame.decode bytes).toOption

/-- What the peer reads when a frame was written, if it can be written and read. -/
def Frame.landed (f : Frame) : Option Frame := f.encode.toOption.bind Frame.read?

/-! ### Ids -/

theorem Reader.yields_then {α β : Type} {P : β → Prop} {Q : α → Prop} {r : Reader α}
    {k : α → Reader β} (first : r.Yields Q) (second : ∀ a, Q a → (k a).Yields P) :
    (r >>= k).Yields P := by
  intro bytes b left read
  obtain ⟨⟨a, mid⟩, hr, rest⟩ := bind_ok read
  exact second a (first _ _ _ hr) mid b left rest

theorem Reader.number31_yields : number31.Yields (fun n => low31 n = n) := by
  refine yields_bind fun n => yields_pure ?_
  rw [← UInt32.toNat_inj, toNat_low31, UInt32.toNat_ofNat']
  omega

theorem Reader.header_yields :
    header.Yields (fun h => low31 h.id = h.id ∧ misplaced h.id h.type = false) := by
  unfold header
  refine yields_bind fun _ => yields_then number31_yields fun id low => yields_bind fun word => ?_
  split
  · exact yields_throw _
  next type _ =>
    change Yields _ (if misplaced id type = true then _ else _ : Reader Header)
    cases wrong : misplaced id type with
    | true =>
      rw [if_pos rfl]
      exact yields_then (yields_throw (P := fun _ => False) _) fun _ absurd => absurd.elim
    | false =>
      rw [if_neg Bool.false_ne_true]
      exact yields_pure ⟨low, wrong⟩

/-- What is read follows a header that is not misplaced. -/
theorem decode_header {bytes : ByteArray} {f : Frame} (h : Frame.decode bytes = .ok f) :
    ∃ head : Header, low31 head.id = head.id ∧ Reader.misplaced head.id head.type = false ∧
      head.Describes f := by
  have spec : (Reader.header >>= Reader.body).Yields (fun f => ∃ head : Header,
      low31 head.id = head.id ∧ Reader.misplaced head.id head.type = false ∧
        head.Describes f) :=
    Reader.yields_then Reader.header_yields fun head placed bytes f left read =>
      ⟨head, placed.1, placed.2, Reader.body_yields head bytes f left read⟩
  unfold Frame.decode StateT.run' at h
  generalize hr : (Reader.header >>= Reader.body) bytes = read at h
  cases read with
  | error e => contradiction
  | ok result =>
    obtain ⟨g, left⟩ := result
    cases h
    exact spec _ _ _ hr

/-- What is read bears an id without a top bit. -/
theorem low31_decode {bytes : ByteArray} {f : Frame} (h : Frame.decode bytes = .ok f) :
    low31 f.id = f.id := by
  obtain ⟨head, low, _, id, _⟩ := decode_header h
  rw [id]
  split
  · rfl
  · exact low

/-- A frame with a payload that is read stands on a stream. -/
theorem payload_nonzero {bytes : ByteArray} {f : PayloadFrame}
    (h : Frame.decode bytes = .ok (.payload f)) : f.id ≠ 0 := by
  obtain ⟨head, _, placed, id, carries⟩ := decode_header h
  obtain ⟨level, other⟩ := (carries f rfl).of_stream
  rw [level, if_neg Bool.false_ne_true] at id
  intro zero
  have misplaced := (misplaced_iff head.type head.id level other).mpr (id.symm.trans zero)
  rw [placed] at misplaced
  contradiction

/-- Every frame starts with a header that bears its id. -/
theorem encode_header {f : Frame} {bytes : ByteArray} (h : f.encode = .ok bytes) :
    ∃ type flags rest, bytes = encodeHeader f.id type flags ++ rest ∧ flags.bits.toNat < 1024 := by
  cases f with
  | setup s =>
    obtain ⟨token, metadataMime, dataMime, payload, _, _, _, _, eq⟩ := encode_setup_ok h
    exact ⟨_, _, _, eq, (setup_flags s).1⟩
  | lease ttl requests metadata =>
    cases h
    refine ⟨_, _, _, ByteArray.append_assoc.trans ByteArray.append_assoc, ?_⟩
    cases metadata.isSome <;> decide
  | keepAlive respond position data =>
    cases h
    refine ⟨_, _, _, ByteArray.append_assoc, ?_⟩
    cases respond <;> decide
  | metadataPush metadata =>
    cases h
    exact ⟨_, _, _, rfl, by decide⟩
  | payload f =>
    obtain ⟨payload, _, eq⟩ := bind_ok (show f.encode = _ from h)
    cases eq
    exact ⟨_, _, _, ByteArray.append_assoc, (payload_flags f).1⟩
  | requestN id n =>
    cases h
    exact ⟨_, _, _, rfl, by decide⟩
  | cancel id =>
    cases h
    exact ⟨_, _, ByteArray.empty, ByteArray.append_empty.symm, by decide⟩
  | error id code message =>
    cases h
    exact ⟨_, _, _, ByteArray.append_assoc, by decide⟩

/-- A frame is read on the stream that it was written for. -/
theorem id_decode_encode {f g : Frame} {bytes : ByteArray} (h : f.encode = .ok bytes)
    (read : Frame.decode bytes = .ok g) : g.id = low31 f.id := by
  obtain ⟨type, flags, rest, rfl, fits⟩ := encode_header h
  rw [decode_encodeHeader _ _ fits] at read
  split at read
  · contradiction
  next placed =>
    generalize hr : Reader.body _ rest = result at read
    cases result with
    | error e => contradiction
    | ok result =>
      cases read
      rw [(Reader.body_yields _ _ _ _ hr).1]
      split
      next level =>
        have zero : low31 f.id = 0 := by
          rw [Reader.misplaced, show type.isConnectionLevel = true from level, if_pos rfl] at placed
          simpa using placed
        exact zero.symm
      · rfl

theorem id_landed {f g : Frame} (h : f.landed = some g) : g.id = low31 f.id := by
  unfold Frame.landed at h
  cases written : f.encode with
  | error e => simp [written, Except.toOption] at h
  | ok bytes =>
    rw [written] at h
    cases read : Frame.decode bytes with
    | error e => simp [Except.toOption, Frame.read?, read] at h
    | ok g' =>
      simp only [Except.toOption, Frame.read?, read, Option.bind_some, Option.some.injEq] at h
      exact h ▸ id_decode_encode written read

/-! ### Frames of a stream of items -/

theorem landed_of_canonical {f : Frame} {bytes : ByteArray} (written : f.encode = .ok bytes)
    (canonical : f.Canonical) : f.landed = some f := by
  have read := (decode_iff written).mpr canonical
  simp [Frame.landed, written, Except.toOption, Frame.read?, read]

/-- The payload can be written: its metadata fits the field for its length. -/
def Payload.Fits (p : Payload) : Prop := ∀ metadata, p.metadata = some metadata →
  metadata.size ≤ maxLength

theorem encodePayload_ok {p : Payload} (fits : p.Fits) : ∃ bytes, encodePayload p = .ok bytes := by
  obtain ⟨data, metadata⟩ := p
  unfold encodePayload
  cases metadata with
  | none => exact ⟨_, rfl⟩
  | some metadata =>
    have bound := fits metadata rfl
    exact ⟨_, if_pos bound⟩

/-- Metadata whose length cannot be told is not encoded. -/
theorem encodePayload_long {p : Payload} {metadata : ByteArray}
    (carries : p.metadata = some metadata) (long : maxLength < metadata.size) :
    encodePayload p = .error (.tooLarge metadata.size maxLength) := by
  rw [encodePayload, carries]
  exact if_neg (Nat.not_le_of_lt long)

theorem encodePayload_ok_iff (p : Payload) : (∃ bytes, encodePayload p = .ok bytes) ↔ p.Fits := by
  refine ⟨fun ⟨bytes, encoded⟩ metadata carries => Nat.le_of_not_lt fun long => ?_,
    encodePayload_ok⟩
  rw [encodePayload_long carries long] at encoded
  contradiction

theorem encode_payload_ok {f : PayloadFrame} (fits : f.payload.Fits) :
    ∃ bytes, (Frame.payload f).encode = .ok bytes := by
  obtain ⟨bytes, h⟩ := encodePayload_ok fits
  change ∃ bytes, f.encode = .ok bytes
  unfold PayloadFrame.encode
  rw [h]
  exact ⟨_, rfl⟩

theorem landed_payload {f : PayloadFrame} (fits : f.payload.Fits) (canonical : f.Canonical) :
    (Frame.payload f).landed = some (.payload f) := by
  obtain ⟨bytes, written⟩ := encode_payload_ok fits
  exact landed_of_canonical written canonical

variable {id : UInt32}

theorem landed_requestStream {batch : UInt32} {payload : Payload} (stream : IsStreamId id)
    (bound : batch ≤ maxRequestN) (fits : payload.Fits) :
    (Frame.payload (.requestStream id batch payload)).landed =
      some (.payload (.requestStream id batch payload)) :=
  landed_payload fits
    { type := .inl rfl
      id := stream
      complete := by simp [PayloadFrame.requestStream]
      next := by simp [PayloadFrame.requestStream]
      initial := bound }

theorem landed_requestChannel {batch : UInt32} {payload : Payload} (stream : IsStreamId id)
    (bound : batch ≤ maxRequestN) (fits : payload.Fits) (complete : Bool) :
    (Frame.payload (.requestChannel id batch payload complete)).landed =
      some (.payload (.requestChannel id batch payload complete)) :=
  landed_payload fits
    { type := .inl rfl
      id := stream
      complete := fun _ => .inl rfl
      next := by simp [PayloadFrame.requestChannel]
      initial := bound }

theorem landed_item {payload : Payload} (stream : IsStreamId id) (fits : payload.Fits) :
    (Frame.payload (.item id payload)).landed = some (.payload (.item id payload)) :=
  landed_payload fits
    { type := .inr rfl
      id := stream
      complete := by simp [PayloadFrame.item]
      next := fun _ => rfl
      initial := rfl }

theorem landed_completion (stream : IsStreamId id) :
    (Frame.payload (.completion id)).landed = some (.payload (.completion id)) :=
  landed_payload (by simp [Payload.Fits, PayloadFrame.completion])
    { type := .inr rfl
      id := stream
      complete := fun _ => .inr rfl
      next := by simp [PayloadFrame.completion]
      initial := rfl }

theorem landed_requestN {n : UInt32} (stream : IsStreamId id) (bound : n ≤ maxRequestN) :
    (Frame.requestN id n).landed = some (.requestN id n) :=
  landed_of_canonical rfl ⟨stream, bound⟩

/-! ### Failures -/

/-- The failure that a frame tells of. -/
def Frame.failure? : Frame → Option Failure
  | .error _ code message => some (.ofErrorFrame code message)
  | _ => none

/-- What a failure becomes for the peer of a stream: what the frame for it is read as. The stream
makes no difference. -/
def Failure.relayed (f : Failure) : Failure :=
  ((f.streamFrame 1).landed.bind Frame.failure?).getD f

theorem landed_error (low : low31 id = id) (code : ErrorCode) (message : String) :
    (Frame.error id code message).landed = some (.error id (.ofCode code.code) message) := by
  have read := decode_error (show (Frame.error id code message).encode = .ok _ from rfl)
  unfold Frame.landed Frame.read?
  rw [show (Frame.error id code message).encode = .ok _ from rfl]
  simp only [Except.toOption, Option.bind_some]
  rw [read, low]

/-- A failure of a stream arrives on the stream. -/
theorem landed_streamFrame (stream : IsStreamId id) (f : Failure) :
    ∃ code message, (f.streamFrame id).landed = some (.error id code message) ∧
      .ofErrorFrame code message = f.relayed := by
  have low := ((isStreamId_iff id).mp stream).1
  have first : low31 1 = 1 := by decide
  refine ⟨_, _, landed_error low _ _, ?_⟩
  unfold Failure.relayed Failure.streamFrame
  rw [landed_error first]
  rfl

end StreamMux
