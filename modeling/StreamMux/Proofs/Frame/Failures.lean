import StreamMux.Proofs.Frame.Landing

/-!
# How the failure of a stream arrives

A failure is sent on its stream under a code, and codes of a connection give way to the
application's. It arrives there with its message under the code that its number is read as
(`Failure.codeRead`), and just the failures that only streams have arrive as they are
(`Failure.ofErrorFrame_codeRead_iff`). A custom failure is not looked at, though, and one that bears
the number of a connection's code arrives as the end of the connection
(`Failure.arrives_on_stream`, `Failure.custom_arrives_as_connection`).

Source: `Failure.streamFrame`, `Failure.ofErrorFrame`, `ErrorCode.ofCode`, `Frame.decode`.
-/
namespace StreamMux

/-! ### Codes of a connection -/

/-- The numbers of the codes that concern a connection as a whole. -/
def ErrorCode.connectionNumbers : List UInt32 := [0x001, 0x002, 0x003, 0x004, 0x101, 0x102]

/-- The reader of a number takes it for a code of the connection by the number alone. -/
theorem ErrorCode.isConnectionLevel_ofCode (number : UInt32) :
    (ofCode number).isConnectionLevel = true ↔ number ∈ connectionNumbers := by
  by_cases named : number ∈ namedNumbers
  · simp only [namedNumbers, List.mem_cons, List.not_mem_nil, or_false] at named
    rcases named with rfl | rfl | rfl | rfl | rfl | rfl | rfl | rfl | rfl | rfl <;> decide
  · have part : connectionNumbers ⊆ namedNumbers := by decide
    rw [(ofCode_custom_iff number).mpr named]
    exact ⟨fun level => absurd level Bool.false_ne_true,
      fun member => absurd (part member) named⟩

/-- A failure is one of the connection if and only if the code that it was made from is. -/
theorem Failure.isConnectionError_ofErrorFrame (code : ErrorCode) (message : String) :
    (ofErrorFrame code message).isConnectionError = code.isConnectionLevel := by
  cases code <;> rfl

namespace Failure

/-! ### What the peer reads -/

/-- The code under which the peer of a stream reads a failure: the one that the number of the sent
code is read as. -/
def codeRead (f : Failure) : ErrorCode :=
  .ofCode (if f.code.isConnectionLevel then .applicationError else f.code : ErrorCode).code

/-- A custom failure under the number of a connection's code. -/
def Poses (f : Failure) : Prop :=
  ∃ number message, f = .custom number message ∧ number ∈ ErrorCode.connectionNumbers

/-- A failure that only a stream can have: it has a code of its own there, which is read as it was
sent. -/
def OfStream : Failure → Prop
  | application _ | rejected _ | canceled _ | invalid _ => True
  | custom number _ => number ∉ ErrorCode.namedNumbers
  | _ => False

variable {id : UInt32}

/-- Whatever fails a stream, the frame for it can be written, and it is read on the stream with the
message of the failure. -/
theorem decode_streamFrame (stream : IsStreamId id) (f : Failure) :
    ∃ bytes, (f.streamFrame id).encode = .ok bytes ∧
      Frame.decode bytes = .ok (.error id f.codeRead f.message) := by
  have low : low31 id = id := ((isStreamId_iff id).mp stream).1
  obtain ⟨bytes, written⟩ : ∃ bytes, (f.streamFrame id).encode = .ok bytes := ⟨_, rfl⟩
  refine ⟨bytes, written, ?_⟩
  rw [decode_error written, low, codeRead]

/-- Only a custom failure that poses as one of the connection is read under a connection's code. -/
theorem isConnectionLevel_codeRead (f : Failure) :
    f.codeRead.isConnectionLevel = true ↔ f.Poses := by
  cases f with
  | custom number message =>
    have code : (custom number message).codeRead = .ofCode number := rfl
    rw [code, ErrorCode.isConnectionLevel_ofCode]
    constructor
    · intro member
      exact ⟨number, message, rfl, member⟩
    · rintro ⟨_, _, same, member⟩
      cases same
      exact member
  | _ =>
    constructor
    · intro level
      contradiction
    · rintro ⟨_, _, same, _⟩
      contradiction

/-- What arrives is the failure itself for those of a stream, and something else for all others. -/
theorem ofErrorFrame_codeRead_iff (f : Failure) :
    ofErrorFrame f.codeRead f.message = f ↔ f.OfStream := by
  cases f with
  | custom number message =>
    have code : (custom number message).codeRead = .ofCode number := rfl
    rw [code, OfStream, ← ofCode_custom_iff]
    constructor
    · intro same
      generalize ErrorCode.ofCode number = read at same
      cases read with
      | custom other =>
        cases same
        rfl
      | _ => contradiction
    · intro same
      rw [same]
      rfl
  | application | rejected | canceled | invalid => exact ⟨fun _ => trivial, fun _ => rfl⟩
  | _ => exact ⟨fun same => by contradiction, fun ofStream => ofStream.elim⟩

/-- A failure that is sent on a stream arrives on this stream, with its message. It arrives as
itself if and only if it is one that only streams have; and it does not look like the end of the
connection, unless it is a custom failure that bears the number of such an end. -/
theorem arrives_on_stream (f : Failure) (stream : IsStreamId id) :
    ∃ bytes code, (f.streamFrame id).encode = .ok bytes ∧
      Frame.decode bytes = .ok (.error id code f.message) ∧
      (code.isConnectionLevel = true ↔ f.Poses) ∧
      ((ofErrorFrame code f.message).isConnectionError = true ↔ f.Poses) ∧
      (ofErrorFrame code f.message = f ↔ f.OfStream) := by
  obtain ⟨bytes, written, read⟩ := decode_streamFrame stream f
  refine ⟨bytes, f.codeRead, written, read, f.isConnectionLevel_codeRead, ?_,
    f.ofErrorFrame_codeRead_iff⟩
  rw [isConnectionError_ofErrorFrame]
  exact f.isConnectionLevel_codeRead

/-- The end of a connection, told on a stream with the largest id, arrives as a failure of the
application. -/
theorem arrives_on_stream_of_closed :
    ∃ bytes code, (closed.streamFrame 0x7FFFFFFF).encode = .ok bytes ∧
      Frame.decode bytes = .ok (.error 0x7FFFFFFF code "connection closed") ∧
      code.isConnectionLevel = false ∧
      (ofErrorFrame code "connection closed").isConnectionError = false := by
  have stream : IsStreamId 0x7FFFFFFF := ⟨by decide, by decide⟩
  obtain ⟨bytes, code, written, read, level, error, _⟩ := closed.arrives_on_stream stream
  have honest : ¬ closed.Poses := fun ⟨_, _, same, _⟩ => by contradiction
  exact ⟨bytes, code, written, read, Bool.eq_false_iff.mpr (honest ∘ level.mp),
    Bool.eq_false_iff.mpr (honest ∘ error.mp)⟩

/-- An application fails a request with a custom failure under number 1. On the stream it arrives
under the code of a SETUP that is not valid, and looks like the end of the connection. -/
theorem custom_arrives_as_connection :
    let f : Failure := .custom 1 "no"
    ∃ bytes, (f.streamFrame 1).encode = .ok bytes ∧
      Frame.decode bytes = .ok (.error 1 .invalidSetup "no") ∧
      ErrorCode.invalidSetup.isConnectionLevel = true ∧
      (ofErrorFrame .invalidSetup "no").isConnectionError = true := by
  intro f
  have stream : IsStreamId 1 := ⟨by decide, by decide⟩
  obtain ⟨bytes, written, read⟩ := decode_streamFrame stream f
  exact ⟨bytes, written, read, rfl, rfl⟩

end Failure
end StreamMux
