import StreamMux.Proofs.Frame.Bounds
import StreamMux.Proofs.Frame.Reencoding

/-!
# Frames that are cut short

A decoder that runs out of bytes says how many it misses for the step at hand. That count is exact:
with fewer bytes than that behind, decoding fails again and misses that much less, so it never takes
a cut frame for a whole one (`Firm.short`). What else is found wrong stays wrong whatever follows
(`Firm.broken`), but for the text of an ERROR, which reaches to the end and may be cut within a
character.

A reader that stops before the end reads the same when more follows (`Steady.ok`), and it is this
that carries the other two over a sequence of readers.
-/
namespace StreamMux

/-- Found wrong for good: more bytes do not help. -/
def FrameError.IsFinal (e : FrameError) : Prop :=
  (∀ missing, e ≠ .incomplete missing) ∧ e ≠ .badText .errorMessage

namespace Reader

variable {α β : Type}

/-- What a reader finds wrong with some bytes is told by them alone. -/
structure Firm (r : Reader α) : Prop where
  /-- The reader misses that many bytes, and misses the fewer the more there are. -/
  short : ∀ bytes missing, r bytes = .error (.incomplete missing) → 1 ≤ missing ∧
    ∀ more : ByteArray, more.size < missing →
      r (bytes ++ more) = .error (.incomplete (missing - more.size))
  broken : ∀ bytes e, r bytes = .error e → e.IsFinal → ∀ more, r (bytes ++ more) = .error e

/-- A reader that stops before the end of its bytes: it leaves what follows untouched. -/
structure Steady (r : Reader α) : Prop extends r.Firm where
  ok : ∀ bytes a left, r bytes = .ok (a, left) → ∀ more, r (bytes ++ more) = .ok (a, left ++ more)

/-! ### Sequences of readers -/

/-- A sequence fails in its first reader, or in the second with what the first left. -/
theorem bind_error {r : Reader α} {k : α → Reader β} {bytes : ByteArray} {e : FrameError}
    (h : (r >>= k) bytes = .error e) :
    r bytes = .error e ∨ ∃ a left, r bytes = .ok (a, left) ∧ k a left = .error e := by
  cases read : r bytes with
  | error e' =>
    rw [bind_short read] at h
    cases h
    exact .inl rfl
  | ok p =>
    rw [bind_of read] at h
    exact .inr ⟨p.1, p.2, rfl, h⟩

theorem Steady.firm_bind {r : Reader α} {k : α → Reader β} (first : r.Steady)
    (second : ∀ a, (k a).Firm) : (r >>= k).Firm where
  short := by
    intro bytes missing failed
    obtain early | ⟨a, left, read, late⟩ := bind_error failed
    · obtain ⟨some, less⟩ := first.short bytes missing early
      exact ⟨some, fun more few => bind_short (less more few)⟩
    · obtain ⟨some, less⟩ := (second a).short left missing late
      refine ⟨some, fun more few => ?_⟩
      rw [bind_of (first.ok bytes a left read more)]
      exact less more few
  broken := by
    intro bytes e failed final more
    obtain early | ⟨a, left, read, late⟩ := bind_error failed
    · exact bind_short (first.broken bytes e early final more)
    · rw [bind_of (first.ok bytes a left read more)]
      exact (second a).broken left e late final more

theorem Steady.bind {r : Reader α} {k : α → Reader β} (first : r.Steady)
    (second : ∀ a, (k a).Steady) : (r >>= k).Steady where
  toFirm := first.firm_bind fun a => (second a).toFirm
  ok := by
    intro bytes b left read more
    obtain ⟨⟨a, mid⟩, hr, hk⟩ := bind_ok read
    rw [bind_of (first.ok bytes a mid hr more)]
    exact (second a).ok mid b left hk more

/-- A sequence fails in its first reader if the second finds nothing wrong. -/
theorem bind_total_error {r : Reader α} {k : α → Reader β} {bytes : ByteArray} {e : FrameError}
    (second : ∀ a bytes, ∃ p, k a bytes = .ok p) (failed : (r >>= k) bytes = .error e) :
    r bytes = .error e := by
  obtain early | ⟨a, left, _, late⟩ := bind_error failed
  · exact early
  · obtain ⟨p, done⟩ := second a left
    rw [done] at late
    contradiction

/-- Nothing can go wrong behind a reader that is firm. -/
theorem Firm.bind_total {r : Reader α} {k : α → Reader β} (first : r.Firm)
    (second : ∀ a bytes, ∃ p, k a bytes = .ok p) : (r >>= k).Firm where
  short := by
    intro bytes missing failed
    obtain ⟨some, less⟩ := first.short bytes missing (bind_total_error second failed)
    exact ⟨some, fun more few => bind_short (less more few)⟩
  broken := by
    intro bytes e failed final more
    exact bind_short (first.broken bytes e (bind_total_error second failed) final more)

/-- A reader to the end that finds nothing wrong but text that is none. -/
theorem firm_of_text {r : Reader α}
    (only : ∀ bytes e, r bytes = .error e → e = .badText .errorMessage) : r.Firm where
  short := by
    intro bytes missing failed
    have text := only bytes _ failed
    contradiction
  broken := by
    intro bytes e failed final
    exact absurd (only bytes e failed) final.2

theorem Firm.bind_pure {r : Reader α} (h : r.Firm) (f : α → β) : (do return f (← r)).Firm :=
  h.bind_total fun a bytes => ⟨(f a, bytes), rfl⟩

theorem steady_pure (a : α) : (pure a : Reader α).Steady where
  short := fun _ _ failed => by cases failed
  broken := fun _ _ failed => by cases failed
  ok := fun bytes b left read more => by
    cases read
    rfl

theorem steady_throw {e : FrameError} (whole : ∀ missing, e ≠ .incomplete missing) :
    (throw e : Reader α).Steady where
  short := fun bytes missing failed => by
    cases failed
    exact absurd rfl (whole missing)
  broken := fun bytes e' failed _ more => by
    cases failed
    rfl
  ok := fun _ _ _ read => by cases read

theorem Steady.map {r : Reader α} (h : r.Steady) (f : α → β) : (f <$> r).Steady := by
  rw [map_eq_pure_bind]
  exact h.bind fun a => steady_pure (f a)

/-! ### Single steps -/

/-- A step that needs so many bytes, and fails only for want of them. -/
theorem firm_of_count {r : Reader α} (count : Nat)
    (few : ∀ bytes : ByteArray, bytes.size < count →
      r bytes = .error (.incomplete (count - bytes.size)))
    (enough : ∀ bytes : ByteArray, count ≤ bytes.size → ∃ p, r bytes = .ok p) : r.Firm := by
  have cause {bytes : ByteArray} {e : FrameError} (failed : r bytes = .error e) :
      bytes.size < count ∧ e = .incomplete (count - bytes.size) := by
    by_cases size : bytes.size < count
    · rw [few bytes size] at failed
      cases failed
      exact ⟨size, rfl⟩
    · obtain ⟨p, read⟩ := enough bytes (Nat.le_of_not_lt size)
      rw [read] at failed
      contradiction
  refine ⟨fun bytes missing failed => ?_, fun bytes e failed final => ?_⟩
  · obtain ⟨size, same⟩ := cause failed
    cases same
    refine ⟨by omega, fun more less => ?_⟩
    have still : (bytes ++ more).size < count := by
      rw [ByteArray.size_append]
      omega
    rw [few _ still, ByteArray.size_append, Nat.sub_add_eq]
  · exact absurd (cause failed).2 (final.1 _)

theorem require_steady (count : Nat) : (require count).Steady where
  toFirm := firm_of_count count (fun _ size => if_pos size)
    fun bytes size => ⟨_, require_of_size size⟩
  ok := by
    intro bytes a left read more
    unfold require at read
    split at read
    · contradiction
    next enough =>
      cases read
      refine require_of_size ?_
      rw [ByteArray.size_append]
      omega

theorem take_steady (count : Nat) : (take count).Steady where
  toFirm := firm_of_count count (fun _ size => take_short size)
    fun bytes size => ⟨_, if_neg (Nat.not_lt_of_le size)⟩
  ok := by
    intro bytes a left read more
    obtain ⟨front, rfl, rfl, size⟩ := take_spells bytes count a left read
    rw [ByteArray.append_assoc]
    exact take_append size

theorem rest_firm : rest.Firm := firm_of_text fun _ _ failed => by cases failed

theorem number_steady (count : Nat) : (number count).Steady :=
  (take_steady count).bind fun _ => steady_pure _

theorem number31_steady : number31.Steady := (number_steady 4).bind fun _ => steady_pure _

theorem millis_steady : millis.Steady := (number_steady 4).bind fun _ => steady_pure _

/-! ### Fields of a frame -/

theorem header_steady : header.Steady := by
  refine (require_steady 6).bind fun _ => number31_steady.bind fun id =>
    (number_steady 2).bind fun word => ?_
  cases FrameType.ofCode? (word / 1024) with
  | none => exact steady_throw fun _ same => by cases same
  | some type =>
    change Steady (if misplaced id type = true then _ else _ : Reader Header)
    split
    · exact (steady_throw fun _ same => by cases same).bind fun _ => steady_pure _
    · exact steady_pure _

theorem mime_steady : mime.Steady := by
  refine (number_steady 1).bind fun length => (take_steady length).bind fun raw => ?_
  cases String.fromUTF8? raw with
  | none => exact steady_throw fun _ same => by cases same
  | some text =>
    dsimp only
    split
    · exact steady_pure _
    · exact steady_throw fun _ same => by cases same

theorem sized_steady (count : Nat) : (do take (← number count) : Reader ByteArray).Steady :=
  (number_steady count).bind fun length => take_steady length

theorem payload_firm (flag : Bool) : (payload flag).Firm := by
  have data (metadata : Option ByteArray) :
      (do return { data := ← rest, metadata } : Reader Payload).Firm := rest_firm.bind_pure _
  cases flag with
  | false => exact (steady_pure none).firm_bind data
  | true => exact ((sized_steady 3).map some).firm_bind data

theorem setup_firm (flags : Flags) : (setup flags).Firm := by
  refine (require_steady 12).firm_bind fun _ => (number_steady 2).firm_bind fun major =>
    (number_steady 2).firm_bind fun minor => millis_steady.firm_bind fun keepAlive =>
    millis_steady.firm_bind fun lifetime => ?_
  have last (token : Option ByteArray) := mime_steady.firm_bind fun metadataMime =>
    mime_steady.firm_bind fun dataMime => (payload_firm flags.metadata).bind_pure fun p =>
      Frame.setup {
        major := UInt16.ofNat major, minor := UInt16.ofNat minor, keepAlive, lifetime
        resumeToken := token, lease := flags.contains Flags.leaseBit, metadataMime, dataMime
        payload := p }
  dsimp only
  split
  · exact ((sized_steady 2).map some).firm_bind last
  · exact (steady_pure none).firm_bind last

theorem lease_firm (flags : Flags) : (lease flags).Firm :=
  (require_steady 8).firm_bind fun _ => millis_steady.firm_bind fun _ =>
    (number_steady 4).firm_bind fun _ => rest_firm.bind_pure _

theorem keepAlive_firm (flags : Flags) : (keepAlive flags).Firm :=
  (number_steady 8).firm_bind fun _ => rest_firm.bind_pure _

theorem payloadFrame_firm (h : Header) : (payloadFrame h).Firm := by
  have last (initial : UInt32) := (payload_firm h.flags.metadata).bind_pure fun p =>
    Frame.payload {
      type := h.type, id := h.id, follows := h.flags.follows
      complete := h.flags.complete && (h.type = .requestChannel || h.type = .payload)
      next := h.flags.next && h.type = .payload
      initial, payload := p }
  unfold payloadFrame
  dsimp only
  split
  · exact number31_steady.firm_bind last
  · exact (steady_pure 0).firm_bind last

theorem errorFrame_firm (id : UInt32) : (errorFrame id).Firm := by
  refine (number_steady 4).firm_bind fun code => firm_of_text fun bytes e failed => ?_
  obtain never | ⟨raw, left, _, late⟩ := bind_error failed
  · cases never
  · cases text : String.fromUTF8? raw with
    | none =>
      rw [text] at late
      cases late
      rfl
    | some message =>
      rw [text] at late
      cases late

theorem body_firm (h : Header) : (body h).Firm := by
  unfold body
  cases h.type with
  | setup => exact setup_firm h.flags
  | lease => exact lease_firm h.flags
  | keepAlive => exact keepAlive_firm h.flags
  | metadataPush => exact rest_firm.bind_pure _
  | requestN => exact (number31_steady.bind fun _ => steady_pure _).toFirm
  | cancel => exact (steady_pure _).toFirm
  | error => exact errorFrame_firm h.id
  | resume | resumeOk | extension => exact (steady_throw fun _ same => by cases same).toFirm
  | _ => exact payloadFrame_firm h

end Reader

/-! ### Frames -/

/-- A decoder fails as its readers do. -/
theorem decode_error_iff (bytes : ByteArray) (e : FrameError) :
    Frame.decode bytes = .error e ↔ (Reader.header >>= Reader.body) bytes = .error e := by
  unfold Frame.decode StateT.run'
  cases (Reader.header >>= Reader.body) bytes with
  | error e' => simp [Functor.map, Except.map]
  | ok p => simp [Functor.map, Except.map]

/-- No read runs past the end of the bytes, even if looked for only where a length is told. What is
missing is told exactly: fewer bytes than that leave the frame incomplete, and leave as many missing
as were not given. Everything else that is wrong with a frame, but for the text of an ERROR, is
found wrong whatever follows. -/
theorem truncation_exact (bytes : ByteArray) :
    Frame.decodeBlindly bytes = (Frame.decode bytes).mapError .frame ∧
    (∀ missing, Frame.decode bytes = .error (.incomplete missing) → 1 ≤ missing ∧
      ∀ more : ByteArray, more.size < missing →
        Frame.decode (bytes ++ more) = .error (.incomplete (missing - more.size))) ∧
    (∀ e, Frame.decode bytes = .error e → (∀ missing, e ≠ .incomplete missing) →
      e ≠ .badText .errorMessage → ∀ more, Frame.decode (bytes ++ more) = .error e) := by
  have firm : (Reader.header >>= Reader.body).Firm :=
    Reader.header_steady.firm_bind Reader.body_firm
  refine ⟨decodeBlindly_eq bytes, fun missing failed => ?_, fun e failed whole text more => ?_⟩
  · obtain ⟨some, less⟩ := firm.short bytes missing ((decode_error_iff _ _).mp failed)
    exact ⟨some, fun more few => (decode_error_iff _ _).mpr (less more few)⟩
  · rw [decode_error_iff] at failed ⊢
    exact firm.broken bytes e failed ⟨whole, text⟩ more

/-- A SETUP cut behind the length of its resume token: four bytes of the token are missing, and with
three of them one is. A frame of no known type stays one, with anything behind. -/
theorem truncation_exact_of_token :
    let cut : ByteArray :=
      ⟨#[0, 0, 0, 0, 0x04, 0x80, 0, 1, 0, 0, 0, 0, 0x75, 0x30, 0, 1, 0x5F, 0x90, 0, 4]⟩
    let unknown : ByteArray := ⟨#[0, 0, 0, 0, 0xF8, 0]⟩
    Frame.decode cut = .error (.incomplete 4) ∧
      Frame.decode (cut ++ ⟨#[1, 2, 3]⟩) = .error (.incomplete 1) ∧
      Frame.decodeBlindly cut = .error (.frame (.incomplete 4)) ∧
      ∀ more, Frame.decode (unknown ++ more) = .error (.unknownType 62) := by
  have short : Frame.decode
      ⟨#[0, 0, 0, 0, 0x04, 0x80, 0, 1, 0, 0, 0, 0, 0x75, 0x30, 0, 1, 0x5F, 0x90, 0, 4]⟩ =
    .error (.incomplete 4) := rfl
  have wrong : Frame.decode ⟨#[0, 0, 0, 0, 0xF8, 0]⟩ = .error (.unknownType 62) := rfl
  obtain ⟨blind, exact, _⟩ := truncation_exact _
  obtain ⟨_, _, final⟩ := truncation_exact _
  refine ⟨short, (exact 4 short).2 ⟨#[1, 2, 3]⟩ (by decide), ?_,
    final _ wrong (fun _ same => by cases same) (by decide)⟩
  rw [blind, short]
  rfl

end StreamMux
