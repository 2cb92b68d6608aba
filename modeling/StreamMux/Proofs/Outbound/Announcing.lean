import StreamMux.Client.Basic
import StreamMux.Proofs.Outbound.Lanes

/-!
# How a client announces itself

A client's SETUP is read by a server as it was made, with its two times in whole milliseconds of 32
bits (`ClientConfig.validateSetup_setup`), and these are the times of the server's end from then on.
The frame waits in front of everything else from the start, so that its bytes are the first that the
client hands to the transport (`Endpoint.first_written`). The result is `Client.announces`.
-/
namespace StreamMux

/-! ### What the server makes of it -/

/-- A time as it is announced: whole milliseconds, as many as fit in 32 bits. -/
def Duration.announced (d : Duration) : Duration := ofMillis (min d.millis 0xFFFFFFFF)

/-- A SETUP frame as it is read: its times are those that were announced. -/
def Setup.heard (s : Setup) : Setup :=
  { s with keepAlive := s.keepAlive.announced, lifetime := s.lifetime.announced }

variable {bytes : ByteArray}

/-- A server has nothing against a client's SETUP. -/
theorem ClientConfig.validateSetup_setup (c : ClientConfig) (encoded : c.setup.encode = .ok bytes) :
    validateSetup bytes = .ok c.setup.heard := by
  have heard : Frame.decode bytes = .ok (.setup c.setup.heard) := decode_setup encoded
  have fine : c.setup.heard.objection? = none := rfl
  unfold validateSetup
  rw [heard]
  dsimp only
  rw [fine]

/-- A server whose acceptor takes the client makes its end with the times that it read. -/
theorem World.serve_accepted {w : World} {outgoing : Pipe} {acceptor : Acceptor} {setup : Setup}
    {application : Application} (settings : Settings)
    (arrived : w.outgoing.read = (.ready (some bytes), outgoing))
    (valid : validateSetup bytes = .ok setup) (accepts : acceptor setup = .ok application) :
    (w.serve acceptor settings).far = some { newEndpoint .server
      (setup.connectionConfig settings.prefetch) none application with clock := w.clock } := by
  have admitted : admission acceptor bytes = .ok (setup, application) := by
    rw [admission, valid]
    simp [bind, Except.bind, accepts, pure, Except.pure]
  unfold serve
  rw [arrived]
  dsimp only
  rw [admitted]

/-! ### What the client hands over first -/

namespace Endpoint

variable {e : Endpoint} {frame : Frame}

/-- What was handed over first stays the first. -/
theorem first_written_stays (piped : e.connection.Piped) (first : e.written[0]? = some bytes)
    (acts : List Act) : (e.afterAll acts).written[0]? = some bytes := by
  obtain ⟨handed, written, _⟩ := handed_over piped acts
  rw [← Array.getElem?_toList] at first ⊢
  rw [written, List.getElem?_append_left (List.getElem?_eq_some_iff.mp first).1]
  exact first

/-- The frame in front of the priority lane is the one that a write takes. -/
theorem written_of_front (piped : e.connection.Piped) (encoded : frame.bytes? = some bytes)
    (nothing : e.written = #[]) (front : (e.lane .priority).head? = some frame) (out : Pipe) :
    (e.stepWrite out).1.written[0]? = some bytes := by
  cases stepWrite_wrote piped out with
  | waits empty live eq =>
    rw [empty] at front
    contradiction
  | stops empty halted eq =>
    rw [empty] at front
    contradiction
  | takes taken own lanes first piped' config written goes =>
    have urgent : own = .priority := by
      cases own with
      | priority => rfl
      | normal =>
        rw [first rfl] at front
        contradiction
    subst urgent
    have same : taken = frame := by
      rw [lanes] at front
      exact Option.some.inj front
    rw [← Array.getElem?_toList, written, nothing, same, wire_single, encoded]
    rfl

/-- A frame that is in front before anything was written is the first that is handed over, by the
first step of the loop that writes. -/
theorem first_written (piped : e.connection.Piped) (encoded : frame.bytes? = some bytes)
    (nothing : e.written = #[]) (front : (e.lane .priority).head? = some frame)
    (acts : List Act) :
    (e.afterAll acts).written[0]? = if acts.any Act.isWrite then some bytes else none := by
  induction acts generalizing e with
  | nil =>
    rw [afterAll_nil, nothing]
    rfl
  | cons act acts ih =>
    have piped' := piped_after piped act
    rw [afterAll_cons, List.any_cons]
    cases writes : act.isWrite with
    | false =>
      have waits : ((e.after act).lane .priority).head? = some frame := by
        rw [lane_after writes, List.head?_append, front]
        rfl
      rw [Bool.false_or]
      exact ih piped' ((e.feeds_after writes).written.trans nothing) waits
    | true =>
      cases act with
      | write out =>
        exact first_written_stays piped' (written_of_front piped encoded nothing front out) acts
      | _ => contradiction

end Endpoint

/-- What a client announces is what a server reads, with both times in whole milliseconds of 32
bits. A server that takes the client makes an end with just these times, and keeps them whatever
it does. And whatever the client does, and whatever becomes of the transport, nothing is handed to
the transport before the first step of the loop that writes, which hands over the announcement. -/
theorem Client.announces (c : Client) {bytes : ByteArray}
    (encoded : (Frame.setup c.config.setup).encode = .ok bytes) :
    let keepAlive := Duration.ofMillis (min c.config.connection.keepAlive.millis 0xFFFFFFFF)
    let lifetime := Duration.ofMillis (min c.config.connection.lifetime.millis 0xFFFFFFFF)
    let heard : Setup := { c.config.setup with keepAlive, lifetime }
    validateSetup bytes = .ok heard ∧
    (∀ (w : World) (outgoing : Pipe) (acceptor : Acceptor) (settings : Settings)
      (application : Application), w.outgoing.read = (.ready (some bytes), outgoing) →
      acceptor heard = .ok application →
      ∃ far, (w.serve acceptor settings).far = some far ∧ far.connection.side = .server ∧
        far.application = application ∧ ∀ acts,
          (far.afterAll acts).connection.config.keepAlive = keepAlive ∧
          (far.afterAll acts).connection.config.lifetime = lifetime) ∧
    ∀ acts, (c.endpoint.afterAll acts).written[0]? =
      if acts.any Endpoint.Act.isWrite then some bytes else none := by
  intro keepAlive lifetime heard
  have valid : validateSetup bytes = .ok heard := c.config.validateSetup_setup encoded
  refine ⟨valid, fun w outgoing acceptor settings application arrived accepts => ?_, fun acts => ?_⟩
  · let config := heard.connectionConfig settings.prefetch
    let far : Endpoint :=
      { World.newEndpoint .server config none application with clock := w.clock }
    have piped : far.connection.Piped := World.piped_newEndpoint .server config none application
    refine ⟨far, World.serve_accepted settings arrived valid accepts, rfl, rfl, fun acts => ?_⟩
    rw [Endpoint.config_afterAll piped]
    exact ⟨rfl, rfl⟩
  · have piped : c.endpoint.connection.Piped := World.piped_newEndpoint .client _ _ _
    have wired : (Frame.setup c.config.setup).bytes? = some bytes := by
      rw [Frame.bytes?, encoded]
      rfl
    exact Endpoint.first_written piped wired rfl rfl acts

/-- A time of almost two milliseconds is announced as one, and one of more than 49 days as the
longest that there is. -/
theorem Client.announces_of_extremes :
    let connection : ConnectionConfig := { keepAlive := ⟨1999999⟩, lifetime := .ofSeconds 5000000 }
    let c : Client := { config := { address := default, connection } }
    ∃ bytes, (Frame.setup c.config.setup).encode = .ok bytes ∧
      validateSetup bytes = .ok { c.config.setup with
        keepAlive := .ofMillis 1, lifetime := .ofMillis 4294967295 } ∧
      (c.endpoint.afterAll [.call (.metadataPush .empty), .watch, .write {}]).written[0]? =
        some bytes := by
  intro connection c
  obtain ⟨text, mime⟩ : ∃ text, encodeMime "application/binary" = .ok text :=
    ⟨_, if_pos (by decide +kernel)⟩
  obtain ⟨bytes, encoded⟩ : ∃ bytes, (Frame.setup c.config.setup).encode = .ok bytes := by
    have metadata : encodeMime c.config.setup.metadataMime = .ok text := mime
    have data : encodeMime c.config.setup.dataMime = .ok text := mime
    change ∃ bytes, c.config.setup.encode = .ok bytes
    unfold Setup.encode
    rw [metadata, data]
    exact ⟨_, rfl⟩
  have law := Client.announces c encoded
  have short : min c.config.connection.keepAlive.millis 0xFFFFFFFF = 1 := by decide +kernel
  have long : min c.config.connection.lifetime.millis 0xFFFFFFFF = 4294967295 := by
    decide +kernel
  rw [short, long] at law
  exact ⟨bytes, encoded, law.1, law.2.2 _⟩

end StreamMux
