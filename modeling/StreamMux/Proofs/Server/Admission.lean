import StreamMux.Network.Link
import StreamMux.Proofs.Connection.History
import StreamMux.Proofs.Frame.RoundTrip
import StreamMux.Proofs.Stream.Splitting

/-!
# Who is admitted, and what the others learn

`validateSetup` takes the first bytes of a connection for one of four things, told apart by what
they are decoded as: a SETUP that fits, one that does not (`Setup.Fits`), an attempt to resume, and
everything else. What the peer is told when it is turned away comes out at the other end as the very
failure that the server had: the codes of a refusal have numbers of their own, and its message is
the whole of it (`Failure.Turns`, `Failure.ofErrorFrame_code_message`). So the client's connection
ends with the server's reason (`admission_exact`).

Source: `validateSetup`, `admission`, `World.turnAway`, `Connection.dispatch`.
-/
namespace StreamMux

/-! ### What is admitted -/

/-- The three conditions on a SETUP. -/
structure Setup.Fits (s : Setup) : Prop where
  version : s.major = 1
  fresh : s.resumeToken = none
  free : s.lease = false

theorem Setup.fits_iff (s : Setup) :
    s.Fits ↔ s.major = 1 ∧ s.resumeToken = none ∧ s.lease = false :=
  ⟨fun h => ⟨h.version, h.fresh, h.free⟩, fun ⟨version, fresh, free⟩ => ⟨version, fresh, free⟩⟩

theorem Setup.objection?_eq_none_iff (s : Setup) : s.objection? = none ↔ s.Fits := by
  rw [fits_iff, objection?, majorVersion]
  by_cases version : s.major = 1
  · cases s.resumeToken <;> cases s.lease <;> simp [version]
  · simp [version]

/-- Whatever is objected to a SETUP, the failure is the same but for its words. -/
theorem Setup.objection?_eq_some {s : Setup} {failure : Failure}
    (objects : s.objection? = some failure) : ∃ message, failure = .unsupportedSetup message := by
  unfold objection? at objects
  split at objects
  · cases objects
    exact ⟨_, rfl⟩
  · split at objects
    · cases objects
      exact ⟨_, rfl⟩
    · split at objects
      · cases objects
        exact ⟨_, rfl⟩
      · contradiction

/-- What the first bytes of a connection can be. -/
inductive FirstFrame (bytes : ByteArray) : Prop where
  | fits (s : Setup) (read : Frame.decode bytes = .ok (.setup s)) (fits : s.Fits)
    (valid : validateSetup bytes = .ok s)
  | unfit (s : Setup) (read : Frame.decode bytes = .ok (.setup s)) (unfit : ¬ s.Fits)
    (message : String) (refused : validateSetup bytes = .error (.unsupportedSetup message))
  | resumes (ignorable : Bool)
    (read : Frame.decode bytes = .error (.unsupportedType .resume ignorable))
    (refused : validateSetup bytes = .error (.rejectedResume "resumption is not supported"))
  | other (strange : ∀ s, Frame.decode bytes ≠ .ok (.setup s))
    (stays : ∀ ignorable, Frame.decode bytes ≠ .error (.unsupportedType .resume ignorable))
    (message : String) (refused : validateSetup bytes = .error (.invalidSetup message))

theorem FrameError.asSetupFailure_of_ne {e : FrameError}
    (stays : ∀ ignorable, e ≠ .unsupportedType .resume ignorable) :
    e.asSetupFailure = .invalidSetup e.message := by
  unfold asSetupFailure
  split
  next ignorable => exact absurd rfl (stays ignorable)
  · rfl

theorem firstFrame (bytes : ByteArray) : FirstFrame bytes := by
  cases read : Frame.decode bytes with
  | error e =>
    have refused : validateSetup bytes = .error e.asSetupFailure := by rw [validateSetup, read]
    by_cases resumes : ∃ ignorable, e = .unsupportedType .resume ignorable
    · obtain ⟨ignorable, rfl⟩ := resumes
      exact .resumes ignorable read refused
    · have stays : ∀ ignorable, e ≠ .unsupportedType .resume ignorable :=
        fun ignorable same => resumes ⟨ignorable, same⟩
      rw [FrameError.asSetupFailure_of_ne stays] at refused
      refine .other (fun s => ?_) (fun ignorable same => ?_) _ refused
      · rw [read]
        exact fun same => by cases same
      · rw [read] at same
        exact stays ignorable (by cases same; rfl)
  | ok f =>
    have stays : ∀ ignorable, Frame.decode bytes ≠ .error (.unsupportedType .resume ignorable) := by
      intro ignorable
      rw [read]
      exact fun same => by cases same
    cases f with
    | setup s =>
      cases objects : s.objection? with
      | none =>
        refine .fits s read (s.objection?_eq_none_iff.mp objects) ?_
        simp only [validateSetup, read, objects]
      | some failure =>
        obtain ⟨message, rfl⟩ := Setup.objection?_eq_some objects
        have unfit : ¬ s.Fits := by
          rw [← s.objection?_eq_none_iff, objects]
          exact fun same => by cases same
        refine .unfit s read unfit message ?_
        simp only [validateSetup, read, objects]
    | _ =>
      refine .other (fun s => ?_) stays _ (by rw [validateSetup, read])
      rw [read]
      exact fun same => by cases same

section
variable (bytes : ByteArray)

theorem validateSetup_ok_iff (s : Setup) :
    validateSetup bytes = .ok s ↔ Frame.decode bytes = .ok (.setup s) ∧ s.Fits := by
  cases firstFrame bytes with
  | fits t read fits valid =>
    simp only [valid, read, Except.ok.injEq, Frame.setup.injEq]
    exact ⟨fun same => ⟨same, same ▸ fits⟩, fun both => both.1⟩
  | unfit t read unfit message refused =>
    simp only [refused, read, Except.ok.injEq, Frame.setup.injEq, reduceCtorEq, false_iff]
    exact fun ⟨same, fits⟩ => unfit (same ▸ fits)
  | resumes ignorable read refused => simp [refused, read]
  | other strange stays message refused => simp [refused, strange s]

theorem validateSetup_resumes_iff :
    (∃ message, validateSetup bytes = .error (.rejectedResume message)) ↔
      ∃ ignorable, Frame.decode bytes = .error (.unsupportedType .resume ignorable) := by
  cases firstFrame bytes with
  | fits s read fits valid => simp [valid, read]
  | unfit s read unfit message refused => simp [refused, read]
  | resumes ignorable read refused => simp [refused, read]
  | other strange stays message refused => simp [refused, stays]

theorem validateSetup_unfit_iff :
    (∃ message, validateSetup bytes = .error (.unsupportedSetup message)) ↔
      ∃ s, Frame.decode bytes = .ok (.setup s) ∧ ¬ s.Fits := by
  cases firstFrame bytes with
  | fits s read fits valid => simp [valid, read, fits]
  | unfit s read unfit message refused => simp [refused, read, unfit]
  | resumes ignorable read refused => simp [refused, read]
  | other strange stays message refused => simp [refused, strange]

theorem validateSetup_other_iff :
    (∃ message, validateSetup bytes = .error (.invalidSetup message)) ↔
      (∀ s, Frame.decode bytes ≠ .ok (.setup s)) ∧
        ∀ ignorable, Frame.decode bytes ≠ .error (.unsupportedType .resume ignorable) := by
  cases firstFrame bytes with
  | fits s read fits valid => simp [valid, read]
  | unfit s read unfit message refused => simp [refused, read]
  | resumes ignorable read refused => simp [refused, read]
  | other strange stays message refused => simp [refused, strange, stays]

end

/-! ### What the peer learns -/

/-- The failures with which a server turns a peer away. -/
inductive Failure.Turns : Failure → Prop where
  | invalidSetup (message : String) : Turns (.invalidSetup message)
  | unsupportedSetup (message : String) : Turns (.unsupportedSetup message)
  | rejectedSetup (message : String) : Turns (.rejectedSetup message)
  | rejectedResume (message : String) : Turns (.rejectedResume message)

theorem turns_of_validate {bytes : ByteArray} {cause : Failure}
    (refused : validateSetup bytes = .error cause) : cause.Turns := by
  cases firstFrame bytes with
  | fits s read fits valid =>
    rw [valid] at refused
    contradiction
  | unfit s read unfit message known =>
    rw [known] at refused
    cases refused
    exact .unsupportedSetup message
  | resumes ignorable read known =>
    rw [known] at refused
    cases refused
    exact .rejectedResume _
  | other strange stays message known =>
    rw [known] at refused
    cases refused
    exact .invalidSetup message

/-- The server refuses a peer by itself, or because the acceptor does. -/
theorem admission_error {acceptor : Acceptor} {first : ByteArray} {cause : Failure}
    (refused : admission acceptor first = .error cause) :
    validateSetup first = .error cause ∨ ∃ f : Failure, cause = .rejectedSetup f.message := by
  unfold admission at refused
  cases valid : validateSetup first with
  | error known =>
    rw [valid] at refused
    cases refused
    exact .inl rfl
  | ok s =>
    simp only [valid, bind, Except.bind] at refused
    cases answer : acceptor s with
    | ok application =>
      rw [answer] at refused
      cases refused
    | error f =>
      rw [answer] at refused
      cases refused
      exact .inr ⟨f, rfl⟩

namespace Failure

variable {cause : Failure}

/-- What the receiver makes of the code and the message is what the sender had. -/
theorem ofErrorFrame_code_message (turns : cause.Turns) :
    ofErrorFrame cause.code cause.message = cause := by
  cases turns <;> rfl

/-- The code of a refusal is read as the code that was written. -/
theorem ofCode_code (turns : cause.Turns) : ErrorCode.ofCode cause.code.code = cause.code := by
  cases turns <;> rfl

/-- A failure comes to the peer of a connection. -/
structure Comes (cause : Failure) (bytes : ByteArray) : Prop where
  written : cause.closingFrame.encode = .ok bytes
  read : Frame.decode bytes = .ok (.error 0 cause.code cause.message)
  /-- A stream of bytes carries the frame, if it is not too long, in whatever pieces. -/
  carried : bytes.size ≤ maxLength → ∃ wire, streamBytes bytes = .ok wire ∧
    ∀ pieces : List ByteArray, (∀ piece ∈ pieces, piece.size ≠ 0) → joined pieces = wire →
      (StreamReader.readFrame { reads := pieces.map .ok }).1 = .ok (some bytes)
  /-- The frame ends a connection, with this cause. -/
  ends : ∀ (c : Connection) (keepsItems : Payload → Bool) (now : Duration), c.isActive = true →
    (c.dispatch keepsItems now (.error 0 cause.code cause.message)).1.terminal = some cause
  /-- An endpoint that reads the frame ends. -/
  reaches : ∀ (e : Endpoint) (inp left : Pipe), e.connection.isActive = true →
    inp.read = (.ready (some bytes), left) → (e.stepRead inp).1.connection.terminal = some cause

theorem comes (turns : cause.Turns) : ∃ bytes, cause.Comes bytes := by
  obtain ⟨bytes, written⟩ : ∃ bytes, cause.closingFrame.encode = .ok bytes := ⟨_, rfl⟩
  have read : Frame.decode bytes = .ok (.error 0 cause.code cause.message) := by
    rw [decode_error written, ofCode_code turns]
    rfl
  have ends (c : Connection) (keepsItems : Payload → Bool) (now : Duration)
      (live : c.isActive = true) :
      c.dispatch keepsItems now (.error 0 cause.code cause.message) = (c.teardown cause, none) := by
    rw [Connection.dispatch, if_pos rfl, ofErrorFrame_code_message turns]
  refine ⟨bytes, written, read, fun fits => ?_, fun c keepsItems now live => ?_,
    fun e inp left live next => ?_⟩
  · refine ⟨framed bytes, by rw [streamBytes, encodeFramed_eq fits], fun pieces full whole => ?_⟩
    have all : FrameBuffer.empty.bytes ++ joined pieces = framed bytes ++ ByteArray.empty := by
      rw [whole, ByteArray.append_empty]
      exact ByteArray.empty_append
    obtain ⟨rest, later, frame, _⟩ := FrameBuffer.readFrame_body fits full all
    rw [StreamReader.readFrame, frame]
  · rw [ends c keepsItems now live]
    exact (Connection.teardown_ended live cause).terminal
  · simp only [Endpoint.stepRead, live, next, read, Endpoint.handle, ends _ _ _ live, Bool.not_true,
      Bool.false_eq_true, if_false]
    exact (Connection.teardown_ended live cause).terminal

end Failure

/-- The far end reads the refusal first if nothing else is on its way. -/
theorem World.turnAway_read {w : World} {cause : Failure} {bytes : ByteArray}
    (written : cause.closingFrame.encode = .ok bytes) (idle : w.incoming.frames.toList = [])
    (writes : w.incoming.writerOpen = true) (reads : w.incoming.readerOpen = true) :
    ∃ left, (w.turnAway cause).incoming.read = (.ready (some bytes), left) := by
  have pushed : (w.incoming.frames.push bytes).toList = [bytes] := by
    rw [Fifo.toList_push, idle, List.nil_append]
  cases next : (w.incoming.frames.push bytes).pop? with
  | none =>
    rw [Fifo.pop?_eq_none_iff, pushed] at next
    contradiction
  | some found =>
    obtain ⟨first, rest⟩ := found
    have popped := Fifo.pop?_eq_some next
    rw [pushed] at popped
    obtain ⟨rfl, _⟩ := List.cons.inj popped
    simp [turnAway, written, Pipe.write, writes, reads, Except.toOption, Pipe.shutdown, Pipe.read,
      next]

/-- Which first bytes are admitted, which failure the others meet with, and that the peer learns it.

* A SETUP is admitted if its major version is 1 and it neither resumes nor asks for leases.
* An attempt to resume, a SETUP that does not fit and everything else are refused, each in its way.
* A refusal by the server, or by an acceptor with whatever failure, can be written, is read as it
  was, and is what the connection of the peer ends with.
* So the near end of a transport, if it has not ended, ends with what the server had against it. -/
theorem admission_exact (first : ByteArray) :
    (∀ s, validateSetup first = .ok s ↔ Frame.decode first = .ok (.setup s) ∧
      s.major = 1 ∧ s.resumeToken = none ∧ s.lease = false) ∧
    ((∃ message, validateSetup first = .error (.rejectedResume message)) ↔
      ∃ ignorable, Frame.decode first = .error (.unsupportedType .resume ignorable)) ∧
    ((∃ message, validateSetup first = .error (.unsupportedSetup message)) ↔
      ∃ s, Frame.decode first = .ok (.setup s) ∧
        ¬ (s.major = 1 ∧ s.resumeToken = none ∧ s.lease = false)) ∧
    ((∃ message, validateSetup first = .error (.invalidSetup message)) ↔
      (∀ s, Frame.decode first ≠ .ok (.setup s)) ∧
        ∀ ignorable, Frame.decode first ≠ .error (.unsupportedType .resume ignorable)) ∧
    (∀ cause, (validateSetup first = .error cause ∨
      ∃ f : Failure, cause = .rejectedSetup f.message) → ∃ bytes, cause.Comes bytes) ∧
    ∀ (w : World) (acceptor : Acceptor) (settings : Settings) (outgoing : Pipe) (cause : Failure),
      w.outgoing.read = (.ready (some first), outgoing) → admission acceptor first = .error cause →
      w.near.connection.isActive = true → w.incoming.frames.toList = [] →
      w.incoming.writerOpen = true → w.incoming.readerOpen = true →
      ((w.serve acceptor settings).stepTask .near .read).1.near.connection.terminal =
        some cause := by
  have told (cause : Failure) (refused : validateSetup first = .error cause ∨
      ∃ f : Failure, cause = .rejectedSetup f.message) : ∃ bytes, cause.Comes bytes := by
    refine Failure.comes ?_
    obtain refused | ⟨f, rfl⟩ := refused
    · exact turns_of_validate refused
    · exact .rejectedSetup _
  have unfit := validateSetup_unfit_iff first
  simp only [Setup.fits_iff] at unfit
  refine ⟨fun s => ?_, validateSetup_resumes_iff first, unfit, validateSetup_other_iff first, told,
    ?_⟩
  · rw [validateSetup_ok_iff, Setup.fits_iff]
  · intro w acceptor settings outgoing cause read refused live idle writes reads
    obtain ⟨bytes, comes⟩ := told cause (admission_error refused)
    have served : w.serve acceptor settings = { w with outgoing }.turnAway cause := by
      simp only [World.serve, read, refused]
    obtain ⟨left, next⟩ := World.turnAway_read (w := { w with outgoing }) comes.written idle writes
      reads
    rw [served]
    exact comes.reaches _ _ left live next

/-- A client asks a server for leases that accepts everyone else, and its connection ends with the
server's words. -/
theorem admission_exact_of_lease :
    let s : Setup := { keepAlive := .ofMillis 30000, lifetime := .ofMillis 90000, lease := true }
    let cause : Failure := .unsupportedSetup "lease is not supported"
    let client := World.newEndpoint .client {} none {}
    ∃ first, s.encode = .ok first ∧ validateSetup first = .error cause ∧
      (∃ bytes, cause.Comes bytes) ∧
      let w : World := { near := client, outgoing := { frames := .ofList [first] } }
      ((w.serve .echo {}).stepTask .near .read).1.near.connection.terminal = some cause := by
  intro s cause client
  obtain ⟨mime, ascii⟩ : ∃ mime, encodeMime "application/binary" = .ok mime :=
    ⟨_, if_pos ⟨by decide +kernel, by decide +kernel⟩⟩
  obtain ⟨first, written⟩ : ∃ first, s.encode = .ok first := by
    rw [Setup.encode, ascii]
    exact ⟨_, rfl⟩
  have refused : validateSetup first = .error cause := by
    rw [validateSetup, decode_setup written]
    rfl
  have turned : admission .echo first = .error cause := by
    rw [admission, refused]
    rfl
  obtain ⟨_, _, _, _, told, learns⟩ := admission_exact first
  exact ⟨first, written, refused, told cause (.inl refused),
    learns _ .echo {} _ cause rfl turned rfl rfl rfl rfl⟩

end StreamMux
