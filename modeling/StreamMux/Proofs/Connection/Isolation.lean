import StreamMux.Proofs.Connection.Apart

/-!
# A frame reaches only its own stream

Whatever frame comes for a stream, nothing of another stream changes (`Confined`): neither its
state nor what is registered under its id, and no frame is enqueued for it. Nothing at all happens
when the id is not registered and the frame does not open a stream.

Source: `Connection.dispatch`, `Connection.receive`, `Connection.accept`.
-/
namespace StreamMux

/-- ERROR on stream 0. -/
def Frame.isClosing : Frame → Bool
  | error id _ _ => id == 0
  | _ => false

theorem isClosing_of_id {frame : Frame} (stream : frame.id ≠ 0) : frame.isClosing = false := by
  cases frame <;> simp_all [Frame.isClosing, Frame.id]

/-- A frame for the connection as a whole that does not end it. -/
def Frame.isGeneral : Frame → Bool
  | setup _ | lease .. | keepAlive .. | metadataPush _ => true
  | _ => false

theorem isGeneral_of_id {frame : Frame} (stream : frame.id ≠ 0) : frame.isGeneral = false := by
  cases frame <;> simp_all [Frame.isGeneral, Frame.id]

namespace Connection

/-- What happened between two states of a connection is about the stream of an id only. -/
structure Confined (id : UInt32) (c d : Connection) : Prop extends c.Grows d where
  /-- A stream that is not registered under the id is what it was, also if it had the id once. -/
  others : ∀ j < c.streams.size, c.registry.get? id ≠ some j → d.stream j = c.stream j
  fresh : ∀ j, c.streams.size ≤ j → j < d.streams.size → (d.stream j).id = id
  registry : ∀ k, k ≠ id → d.registry.get? k = c.registry.get? k
  /-- The id stands for the stream that it stood for, or for a new one. -/
  own : ∀ j, d.registry.get? id = some j → c.registry.get? id = some j ∨ c.streams.size ≤ j
  queue : ∃ added : List Frame, (∀ f ∈ added, f.id = id) ∧
    d.queue = added.foldl FrameQueue.enqueue c.queue

variable {id : UInt32} {c d e : Connection}

namespace Confined

theorem refl (id : UInt32) (c : Connection) : Confined id c c where
  toGrows := .refl c
  others _ _ _ := rfl
  fresh _ past placed := absurd placed (Nat.not_lt_of_le past)
  registry _ _ := rfl
  own _ found := .inl found
  queue := ⟨[], by simp, rfl⟩

theorem trans (h : Confined id c d) (h' : Confined id d e) : Confined id c e where
  toGrows := h.toGrows.trans h'.toGrows
  others j hj other := by
    have later : d.registry.get? id ≠ some j := fun found => by
      rcases h.own j found with held | past
      · exact other held
      · exact Nat.not_lt_of_le past hj
    rw [h'.others j (Nat.lt_of_lt_of_le hj h.size) later, h.others j hj other]
  fresh j past placed := by
    by_cases early : j < d.streams.size
    · rw [h'.names j early]
      exact h.fresh j past early
    · exact h'.fresh j (Nat.le_of_not_lt early) placed
  registry k other := (h'.registry k other).trans (h.registry k other)
  own j found := by
    rcases h'.own j found with held | past
    · exact h.own j held
    · exact .inr (Nat.le_trans h.size past)
  queue := by
    obtain ⟨first, ids, eq⟩ := h.queue
    obtain ⟨second, ids', eq'⟩ := h'.queue
    exact ⟨first ++ second, List.forall_mem_append.mpr ⟨ids, ids'⟩,
      by rw [eq', eq, List.foldl_append]⟩

/-- A stream with another id is what it was. -/
theorem other (h : Confined id c d) (placed : c.Placed) {i : Nat} (bound : i < c.streams.size)
    (other : (c.stream i).id ≠ id) : d.stream i = c.stream i :=
  h.others i bound fun found => other (placed found).2

end Confined

/-! ### The parts of a dispatch -/

/-- The stream that work was started for. -/
def Work.place? : Work → Option Nat
  | .metadataPush _ => none
  | .fireAndForget stream _ | .response stream _ | .items stream _ | .channel stream _ =>
    some stream

theorem place_ofRequest {kind : StreamKind} {i : Nat} {payload : Payload} {work : Work}
    (h : Work.ofRequest? kind i payload = some work) : work.place? = some i := by
  unfold Work.ofRequest? at h
  split at h
  all_goals first | contradiction | (cases h; rfl)

theorem insert?_ok {s : Exchange} {i : Nat} (h : c.insert? s = some (i, d)) :
    ∃ registry, c.registry.insert? s.id c.streams.size = some registry ∧ i = c.streams.size ∧
      d = { c with registry, streams := c.streams.push s } := by
  simp only [insert?, Option.map_eq_some_iff] at h
  obtain ⟨registry, inserted, eq⟩ := h
  cases eq
  exact ⟨registry, inserted, rfl, rfl⟩

/-- The stream that is registered under the id makes a step. -/
theorem confined_commit (placed : c.Placed) {i : Nat} (found : c.registry.get? id = some i)
    {t : Exchange} {frames : List Frame} (named : t.id = (c.stream i).id)
    (ids : ∀ f ∈ frames, f.id = (c.stream i).id) : Confined id c (c.commit i t frames) where
  toGrows := grows_commit c i frames named
  others j _ other := by
    rw [stream_commit_ne]
    rintro rfl
    exact other found
  fresh j past bound := by
    rw [size_commit] at bound
    exact absurd bound (Nat.not_lt_of_le past)
  registry k other := by
    simp only [commit]
    split
    · rw [(placed found).2, Registry.get?_erase, if_neg other]
    · rfl
  own j held := by
    simp only [commit] at held
    split at held
    · rw [(placed found).2, Registry.get?_erase, if_pos rfl] at held
      contradiction
    · exact .inl held
  queue := ⟨frames, fun f hf => (ids f hf).trans (placed found).2, rfl⟩

/-- A stream is placed and registered. -/
theorem confined_insert {s : Exchange} {registry : Registry Nat}
    (inserted : c.registry.insert? s.id c.streams.size = some registry) :
    Confined s.id c { c with registry, streams := c.streams.push s } where
  toGrows := grows_insert inserted rfl
  others j hj _ := by rw [stream_push rfl rfl, if_neg (Nat.ne_of_lt hj)]
  fresh j past bound := by
    rw [Array.size_push] at bound
    rw [stream_push rfl rfl, if_pos (by omega)]
  registry k other := by rw [Registry.get?_insert? inserted, if_neg other]
  own j held := by
    rw [Registry.get?_insert? inserted, if_pos rfl] at held
    exact .inr (Nat.le_of_eq (Option.some.inj held))
  queue := ⟨[], by simp, rfl⟩

theorem confined_stepRegistered (placed : c.Placed) (id : UInt32) (f : Exchange → Exchange)
    (named : ∀ s : Exchange, (f s).id = s.id) : Confined id c (c.stepRegistered id f) := by
  unfold stepRegistered
  split
  next i found => exact confined_commit placed found (named _) (by simp)
  · exact .refl id c

/-- The work that is started is for a stream of the id. -/
def Work.StartsFor (work : Work) (id : UInt32) (c : Connection) : Prop :=
  ∃ i, work.place? = some i ∧ i < c.streams.size ∧ (c.stream i).id = id

theorem confined_receive (placed : c.Placed) (keepsItems : Payload → Bool) {i : Nat}
    (found : c.registry.get? id = some i) (f : PayloadFrame) :
    Confined id c (c.receive keepsItems i f).1 ∧
      ∀ work, (c.receive keepsItems i f).2 = some work →
        work.StartsFor id (c.receive keepsItems i f).1 := by
  have own := Exchange.receive_own (c.stream i) { batch := c.config.prefetch, keepsItems } f
  have confined : Confined id c (c.receive keepsItems i f).1 :=
    confined_commit placed found own.1 own.2
  refine ⟨confined, fun work started => ?_⟩
  obtain ⟨payload, _, opens⟩ := Option.bind_eq_some_iff.mp started
  obtain ⟨bound, name⟩ := placed found
  exact ⟨i, place_ofRequest opens, Nat.lt_of_lt_of_le bound confined.size,
    (confined.names i bound).trans name⟩

theorem confined_accept (placed : c.Placed) (keepsItems : Payload → Bool) (f : PayloadFrame) :
    Confined f.id c (c.accept keepsItems f).1 ∧
      ∀ work, (c.accept keepsItems f).2 = some work →
        work.StartsFor f.id (c.accept keepsItems f).1 := by
  unfold accept
  split
  · exact ⟨.refl _ c, by simp⟩
  next kind _ =>
    split
    · exact ⟨.refl _ c, by simp⟩
    · split
      · exact ⟨.refl _ c, by simp⟩
      next i d opened =>
        obtain ⟨registry, inserted, rfl, rfl⟩ := insert?_ok opened
        have placing := confined_insert (s := .responder f.id kind f.initial) inserted
        have found := Registry.get?_insert? inserted f.id
        obtain ⟨received, started⟩ := confined_receive (placing.placed placed) keepsItems
          (found.trans (if_pos rfl)) f
        exact ⟨placing.trans received, started⟩

/-- A frame of a stream is about that stream only, and so is the work that it starts. -/
theorem dispatch_confined (placed : c.Placed) (keepsItems : Payload → Bool) (now : Duration)
    {frame : Frame} (general : frame.isGeneral = false) (stays : frame.isClosing = false) :
    Confined frame.id c (c.dispatch keepsItems now frame).1 ∧
      ∀ work, (c.dispatch keepsItems now frame).2 = some work →
        work.StartsFor frame.id (c.dispatch keepsItems now frame).1 := by
  cases frame with
  | keepAlive respond position data => contradiction
  | metadataPush metadata => contradiction
  | setup s => contradiction
  | lease ttl requests metadata => contradiction
  | error own code message =>
    have stream : own ≠ 0 := by simpa [Frame.isClosing] using stays
    unfold dispatch
    dsimp only
    rw [if_neg stream]
    exact ⟨confined_stepRegistered placed own _ fun s => Exchange.id_fail s _, by simp⟩
  | requestN own n =>
    exact ⟨confined_stepRegistered placed own _ fun s => Exchange.id_grant s _, by simp [dispatch]⟩
  | cancel own =>
    exact ⟨confined_stepRegistered placed own _ fun s => Exchange.id_cancelByPeer s,
      by simp [dispatch]⟩
  | payload f =>
    unfold dispatch
    dsimp only
    split
    next i found =>
      split
      · exact ⟨.refl _ c, by simp⟩
      · exact confined_receive placed keepsItems found f
    · exact confined_accept placed keepsItems f

/-! ### Frames that reach no stream -/

/-- A frame under an id that is not registered does nothing, unless the peer opens a stream. -/
theorem dispatch_unregistered (keepsItems : Payload → Bool) (now : Duration) {frame : Frame}
    (nonzero : frame.id ≠ 0) (free : c.registry.get? frame.id = none)
    (opens : frame.type.opensStream = true → c.side.owns frame.id = true) :
    c.dispatch keepsItems now frame = (c, none) := by
  cases frame with
  | keepAlive respond position data => exact absurd rfl nonzero
  | metadataPush metadata => exact absurd rfl nonzero
  | setup s => exact absurd rfl nonzero
  | lease ttl requests metadata => exact absurd rfl nonzero
  | error own code message =>
    unfold dispatch
    dsimp only
    rw [if_neg (show own ≠ 0 from nonzero), stepRegistered,
      show c.registry.get? own = none from free]
  | requestN own n =>
    unfold dispatch
    dsimp only
    rw [stepRegistered, show c.registry.get? own = none from free]
  | cancel own =>
    unfold dispatch
    dsimp only
    rw [stepRegistered, show c.registry.get? own = none from free]
  | payload f =>
    unfold dispatch
    dsimp only
    rw [show c.registry.get? f.id = none from free]
    dsimp only
    rw [accept]
    split
    · rfl
    next kind request =>
      have owns : c.side.owns f.id = true := opens (by
        change f.type.opensStream = true
        revert request
        cases f.type <;> simp [StreamKind.ofRequest?, FrameType.opensStream])
      rw [if_pos owns]

/-- No stream, and nothing that waits for one, differs. -/
structure Untouched (c d : Connection) : Prop extends c.Grows d where
  streams : d.streams = c.streams
  registry : d.registry = c.registry
  normal : d.queue.normal = c.queue.normal

theorem Untouched.refl (c : Connection) : Untouched c c := ⟨.refl c, rfl, rfl, rfl⟩

theorem untouched_hear (c : Connection) (now : Duration) (respond : Bool) :
    Untouched c (c.hear now respond) := by
  have noted : c.Grows { c with lastHeard := now } := { Grows.refl c with }
  cases respond with
  | true =>
    let answer : Frame := .keepAlive false 0 ByteArray.empty
    have answered : Grows { c with lastHeard := now } (enqueuePriority _ answer) :=
      (apart_enqueuePriority 0 _ rfl).toGrows
    exact ⟨noted.trans answered, rfl, rfl, normal_enqueuePriority _ _⟩
  | false => exact ⟨noted, rfl, rfl, rfl⟩

/-- A general frame starts no work for a stream either. -/
theorem dispatch_untouched (c : Connection) (keepsItems : Payload → Bool) (now : Duration)
    {frame : Frame} (general : frame.isGeneral = true) :
    Untouched c (c.dispatch keepsItems now frame).1 ∧
      ∀ work, (c.dispatch keepsItems now frame).2 = some work → work.place? = none := by
  cases frame with
  | keepAlive respond position data => exact ⟨untouched_hear c now respond, by simp [dispatch]⟩
  | metadataPush metadata =>
    refine ⟨.refl c, fun work started => ?_⟩
    cases started
    rfl
  | setup s => exact ⟨.refl c, by simp [dispatch]⟩
  | lease ttl requests metadata => exact ⟨.refl c, by simp [dispatch]⟩
  | _ => contradiction

/-- Whatever state an active connection came to, and whatever frame comes.

* A frame of a stream does not end the connection. It changes neither another stream nor what is
  registered under another id, enqueues only frames of its own stream, and starts work for no other.
* Under an id that is not registered it does nothing, unless it is a request under an id of the
  peer.
* A SETUP, LEASE, KEEPALIVE or METADATA_PUSH changes no stream and enqueues nothing for one; a
  KEEPALIVE that wants no answer enqueues nothing at all. -/
theorem dispatch_isolated {side : Side} {config : ConnectionConfig} {setup : Option Setup}
    {start : Duration} {c : Connection} {sent : Nat → List Frame}
    (run : Run (new side config setup start) sent c) (active : c.isActive = true)
    (keepsItems : Payload → Bool) (now : Duration) (frame : Frame) :
    let d := (c.dispatch keepsItems now frame).1
    (frame.id ≠ 0 →
      d.terminal = none ∧ Confined frame.id c d ∧
      (∀ id i, id ≠ frame.id → c.registry.get? id = some i →
        d.registry.get? id = some i ∧ d.stream i = c.stream i) ∧
      (∀ work, (c.dispatch keepsItems now frame).2 = some work → work.StartsFor frame.id d) ∧
      (c.registry.get? frame.id = none →
        (frame.type.opensStream = true → c.side.owns frame.id = true) →
        c.dispatch keepsItems now frame = (c, none))) ∧
    (frame.isGeneral = true → Untouched c d) ∧
    (∀ position data, frame = .keepAlive false position data → d.queue = c.queue) := by
  have placed : c.Placed := (run.sound (sound_new side config setup start)).placed
  refine ⟨fun nonzero => ?_, fun general => (dispatch_untouched c keepsItems now general).1, ?_⟩
  · obtain ⟨confined, starts⟩ := dispatch_confined placed keepsItems now (isGeneral_of_id nonzero)
      (isClosing_of_id nonzero)
    refine ⟨?_, confined, fun id i different found => ?_, starts,
      dispatch_unregistered keepsItems now nonzero⟩
    · rw [confined.terminal]
      simpa [isActive] using active
    · obtain ⟨bound, name⟩ := placed found
      exact ⟨(confined.registry id different).trans found,
        confined.other placed bound (name ▸ different)⟩
  · rintro position data rfl
    rfl

/-- The peer opens a channel, and its stream stays what it is when a request under another id comes,
and one under an id that is not the peer's to give. -/
theorem dispatch_isolated_of_channel :
    let c := ((new .server {} none 0).dispatch (fun _ => true) 0
      (.payload (.requestChannel 1 8 Payload.empty false))).1
    let request : Frame := .payload (.requestStream 3 1 Payload.empty)
    let stray : Frame := .payload (.requestStream 4 1 Payload.empty)
    (c.dispatch (fun _ => true) 0 request).1.stream 0 = c.stream 0 ∧
      (c.dispatch (fun _ => true) 0 request).2 = some (.items 1 Payload.empty) ∧
      c.dispatch (fun _ => true) 0 stray = (c, none) := by
  intro c request stray
  have opened : Step (new .server {} none 0) c := .dispatch _ _ _ _
  have law := dispatch_isolated (Run.start.step opened) (by decide) (fun _ => true) 0
  obtain ⟨_, _, others, _, _⟩ := (law request).1 (by decide)
  obtain ⟨_, _, _, _, nothing⟩ := (law stray).1 (by decide)
  exact ⟨(others 1 0 (by decide) (by decide)).2, rfl, nothing (by decide) (by decide)⟩

end Connection
end StreamMux
