import StreamMux.Proofs.Outbound.Closing
import StreamMux.Proofs.Outbound.Standing

/-!
# No request is lost without a word

The payload of a request is passed on once, to be carried by the frame that opens a stream
(`Endpoint.Passes`). Either this is refused, and the caller is told why (`Endpoint.Refuses`), or the
stream is registered and the frame is queued (`Endpoint.Begins`). From then on only the loop that
writes takes it off the queue. So whenever the queue is empty, the frame was handed to the
transport, unless it cannot be encoded; and when nothing can run but the queue is not empty, then
the connection is over and nobody waits for anything (`Endpoint.no_request_lost`).

A frame that cannot be encoded is passed over, and nothing is said to the caller, who waits on
(`Endpoint.request_passed_over`).
-/
namespace StreamMux

/-! ### Encoding -/

theorem Frame.encode_payload_long {f : PayloadFrame} {metadata : ByteArray}
    (carries : f.payload.metadata = some metadata) (long : maxLength < metadata.size) :
    (Frame.payload f).encode = .error (.tooLarge metadata.size maxLength) := by
  change f.encode = _
  rw [PayloadFrame.encode, encodePayload_long carries long]
  rfl

/-- Only metadata that is too long keeps a frame with a payload from being encoded. -/
theorem Frame.encode_payload_cases (f : PayloadFrame) :
    (∃ bytes, (Frame.payload f).encode = .ok bytes) ∨
      ∃ metadata, f.payload.metadata = some metadata ∧ maxLength < metadata.size := by
  by_cases fits : f.payload.Fits
  · exact .inl (encode_payload_ok fits)
  · simp only [Payload.Fits, Classical.not_forall, Nat.not_le] at fits
    obtain ⟨metadata, carries, long⟩ := fits
    exact .inr ⟨metadata, carries, long⟩

/-! ### Streams of this end -/

namespace Connection

variable {c d : Connection} {i : Nat}

/-- A stream of this end fails with the cause that ended the connection, or looks for an id for
ever while all are taken. -/
theorem register_refused {side : Side} {make : UInt32 → Exchange} {refusal : Refusal}
    (seated : c.Seated side) (named : ∀ id, (make id).id = id)
    (refused : c.register make = .error refusal) :
    (∃ cause, refusal = .failed cause ∧ c.terminal = some cause) ∨
      refusal = .endless ∧ ∀ id, side.Issues id → c.registry.contains id = true := by
  unfold register at refused
  split at refused
  next cause halted =>
    cases refused
    exact .inl ⟨cause, rfl, halted⟩
  · split at refused
    next exhausted =>
      cases refused
      refine .inr ⟨rfl, fun id issued => StreamIds.taken_of_next? exhausted issued.1 ?_⟩
      exact ((side.owns_iff id).mp issued.2).2.trans seated.parity.symm
    next id ids found =>
      have free := (StreamIds.next?_ok found).free
      split at refused
      next taken =>
        simp [insert?, Registry.insert?, named, free] at taken
      · cases refused

/-- The frame that opens a stream comes last in its lane, under the id of the stream. -/
theorem register_queues {e : Connection} {make : UInt32 → Exchange} (piped : c.Piped)
    (named : ∀ id, (make id).id = id) (registered : c.register make = .ok (i, e))
    (opening : UInt32 → PayloadFrame)
    (eq : d = e.enqueue (.payload (opening (e.stream i).id))) :
    i = c.streams.size ∧ i < d.streams.size ∧ d.stream i = make (d.stream i).id ∧
      d.queue.lane .normal = c.queue.lane .normal ++ [.payload (opening (d.stream i).id)] := by
  obtain ⟨live, id, ids, registry, _, _, rfl, rfl⟩ := register_ok named registered
  subst eq
  have stream : ∀ d : Connection, d.streams = c.streams.push (make id) →
      d.stream c.streams.size = make id := fun d pushed => by
    rw [stream_push rfl pushed, if_pos rfl]
  have accepts : c.queue.accepts = true := piped.accepts.trans live
  refine ⟨rfl, ?_, ?_, ?_⟩
  · simp [enqueue]
  · rw [stream _ rfl, named]
  · rw [stream _ rfl, stream _ rfl, named]
    refine (FrameQueue.lane_put c.queue _ .normal .normal).trans ?_
    rw [if_pos ⟨accepts, rfl⟩]

end Connection

/-! ### Passing a payload on -/

/-- The failure that a caller is told of at once. -/
def Reply.failure? : Reply → Option Failure
  | .answer (.ready (.error failure)) | .items (.error failure :: _) _ _ => some failure
  | _ => none

namespace Endpoint

/-- A payload is passed on, to be carried by the frame that opens a stream. -/
inductive Passes (e : Endpoint) (payload : Payload) : Act → (UInt32 → PayloadFrame) → Prop
  /-- The application asks for an answer. -/
  | response (n : String) :
      Passes e payload (.call (.requestResponse n payload)) (.requestResponse · payload)
  /-- It asks for the first item of a stream. -/
  | stream {n : String} {batch : UInt32}
      (held : e.request? n = some (.unopened (.stream payload) batch)) (limit : Nat) :
      Passes e payload (.call (.poll n (limit + 1))) (.requestStream · batch payload)
  /-- A task takes the first item of a channel from its source. -/
  | channel {k i : Nat} {batch : UInt32} {p : Producer}
      (there : e.tasks[k]?.join = some (.openChannel i batch p))
      (goes : e.connection.isStopped i = false)
      (taken : (e.pull i p).1 = .item (.ok payload)) :
      Passes e payload (.work k) (.requestChannel · batch payload false)

/-- No stream comes of a call. The caller is told the cause that ended the connection; or every id
of this side is taken, and the caller waits while the search for a free one goes on. -/
structure Refuses (e : Endpoint) (side : Side) (call : Call) : Prop where
  streams : (e.perform call).2.connection.streams.size = e.connection.streams.size
  reason : (∃ cause, e.connection.terminal = some cause ∧
      (e.perform call).1.failure? = some cause) ∨
    (e.perform call).1.waits = true ∧
      ∀ id, side.Issues id → (e.perform call).2.connection.registry.contains id = true

/-- A stream is registered, and the frame that opens it is queued. -/
structure Begins (e : Endpoint) (act : Act) (opening : UInt32 → PayloadFrame) (i : Nat) :
    Prop where
  registered : (e.after act).connection.registry.get? ((e.after act).connection.stream i).id =
    some i
  queued : .payload (opening ((e.after act).connection.stream i).id) ∈ e.accepted act .normal

variable {side : Side} {c₀ : Connection} {e f g : Endpoint} {act : Act} {payload : Payload}
  {opening : UInt32 → PayloadFrame} {n : String} {i : Nat}

theorem begins_of_lane (sound : (e.after act).connection.Sound) (other : act.isWrite = false)
    (placed : i < (e.after act).connection.streams.size)
    (goes : ((e.after act).connection.stream i).isOver = false) {added : List Frame}
    (lane : (e.after act).lane .normal = e.lane .normal ++ added)
    (mem : .payload (opening ((e.after act).connection.stream i).id) ∈ added) :
    e.Begins act opening i := by
  have accepted : e.accepted act .normal = added :=
    List.append_cancel_left ((lane_after other .normal).symm.trans lane)
  exact ⟨(sound.registered i placed).mpr goes, accepted ▸ mem⟩

/-- The application asks for an answer, and no stream can be registered. -/
theorem response_refused (h : e.Standing c₀) (start : c₀.Seated side) {n : String}
    (payload : Payload) {refusal : Connection.Refusal}
    (registered : (e.dropRequest n).connection.register Exchange.requesterResponse =
      .error refusal) : e.Refuses side (.requestResponse n payload) := by
  obtain ⟨⟨_, works⟩, _⟩ := dropRequest_orderly h.orderly h.sound n
  have answer : (e.dropRequest n).connection.requestResponse payload = .error refusal := by
    rw [Connection.requestResponse, registered]
    rfl
  rcases Connection.register_refused ((h.evolves.works works).seated start) (fun _ => rfl)
      registered with ⟨cause, rfl, halted⟩ | ⟨rfl, taken⟩
  · have eq : e.perform (.requestResponse n payload) =
        (.answer (.ready (.error cause)), e.dropRequest n) := by
      rw [perform, requestResponse, answer]
      rfl
    rw [works.terminal] at halted
    exact ⟨by rw [eq]; exact works.size, .inl ⟨cause, halted, by rw [eq]; rfl⟩⟩
  · have eq : e.perform (.requestResponse n payload) = (.answer .pending, e.dropRequest n) := by
      rw [perform, requestResponse, answer]
      rfl
    exact ⟨by rw [eq]; exact works.size, .inr ⟨by rw [eq]; rfl, by rw [eq]; exact taken⟩⟩

/-- The application asks for an answer. -/
theorem response_begins (h : e.Standing c₀) (start : c₀.Seated side) (piped : e.connection.Piped)
    (n : String) (payload : Payload) :
    e.Refuses side (.requestResponse n payload) ∨
      ∃ i, e.Begins (.call (.requestResponse n payload)) (.requestResponse · payload) i := by
  have leaves : e.Leaves none (some n) (e.dropRequest n) := e.dropRequest_leaves n
  have feeds := leaves.connection (by simp)
  have sound := (h.after (.call (.requestResponse n payload))).sound
  cases registered : (e.dropRequest n).connection.register Exchange.requesterResponse with
  | error refusal => exact .inl (response_refused h start payload registered)
  | ok result =>
    obtain ⟨i, d⟩ := result
    obtain ⟨_, placed, stream, queued⟩ := Connection.register_queues (feeds.piped piped)
      (fun _ => rfl) registered (.requestResponse · payload) rfl
    obtain ⟨added, grown⟩ := feeds.lane .normal
    have connection : (e.after (.call (.requestResponse n payload))).connection =
        d.enqueue (.payload (.requestResponse (d.stream i).id payload)) := by
      change (e.requestResponse n payload).2.connection = _
      unfold requestResponse Connection.requestResponse
      dsimp only
      rw [registered]
      rfl
    rw [grown, List.append_assoc, ← connection] at queued
    refine .inr ⟨i, begins_of_lane sound rfl ?_ ?_ queued
      (List.mem_append_right _ (List.mem_singleton_self _))⟩
    · rw [connection]
      exact placed
    · rw [connection, stream]
      rfl

/-- Nothing has come in for a stream that was just asked for. -/
theorem poll_requesterStream (batch id : UInt32) : (Exchange.requesterStream batch id).poll =
    (.pending, .requesterStream batch id, []) := by
  have some : (max batch 1).toNat ≠ 0 := by
    rw [show max batch 1 = if batch ≤ 1 then 1 else batch from rfl]
    split
    · decide
    next above =>
      have above : ¬ batch.toNat ≤ 1 := above
      omega
  simp [Exchange.poll, Exchange.requesterStream, Fifo.pop?, Fifo.empty, some]

/-- The first item of a stream that was not asked for yet is whatever comes of asking. -/
theorem perform_first {batch : UInt32}
    (held : e.request? n = some (.unopened (.stream payload) batch)) (limit : Nat) :
    e.perform (.poll n (limit + 1)) =
      (.items (e.takeItems n (limit + 1)).1 (e.takeItems n (limit + 1)).2.1
        ((e.takeItems n (limit + 1)).2.2.streamId? n), (e.takeItems n (limit + 1)).2.2) := by
  rw [perform, pollNamed, held]

/-- The application asks for the first item of a stream, and none can be registered. -/
theorem stream_refused {batch : UInt32} (h : e.Standing c₀) (start : c₀.Seated side)
    (held : e.request? n = some (.unopened (.stream payload) batch)) (limit : Nat)
    {refusal : Connection.Refusal}
    (registered : e.connection.register (Exchange.requesterStream batch) = .error refusal) :
    e.Refuses side (.poll n (limit + 1)) := by
  have made : e.open (.stream payload) batch = (.error refusal, e) := by
    unfold «open» Connection.requestStream
    dsimp only
    rw [registered]
    rfl
  have performed := perform_first held limit
  rcases Connection.register_refused (h.evolves.seated start) (fun _ => rfl) registered with
    ⟨cause, rfl, halted⟩ | ⟨rfl, taken⟩
  · obtain ⟨items, same⟩ := takeItems_unmade held made limit
    refine ⟨?_, .inl ⟨cause, halted, ?_⟩⟩
    · rw [performed, same]
      rfl
    · rw [performed, items]
      rfl
  · have searches : e.Searches n := ⟨_, _, held, congrArg Prod.fst made⟩
    rw [searches.takeItems limit] at performed
    refine ⟨?_, .inr ⟨?_, ?_⟩⟩
    · rw [performed]
    · rw [performed]
      rfl
    · rw [performed]
      exact taken

/-- The application asks for the first item of a stream. -/
theorem stream_begins {batch : UInt32} (h : e.Standing c₀) (start : c₀.Seated side)
    (piped : e.connection.Piped)
    (held : e.request? n = some (.unopened (.stream payload) batch)) (limit : Nat) :
    e.Refuses side (.poll n (limit + 1)) ∨
      ∃ i, e.Begins (.call (.poll n (limit + 1))) (.requestStream · batch payload) i := by
  have sound := (h.after (.call (.poll n (limit + 1)))).sound
  cases registered : e.connection.register (Exchange.requesterStream batch) with
  | error refusal => exact .inl (stream_refused h start held limit registered)
  | ok result =>
    obtain ⟨i, d⟩ := result
    obtain ⟨_, placed, stream, queued⟩ := Connection.register_queues piped (fun _ => rfl)
      registered (.requestStream · batch payload) rfl
    generalize opened : d.enqueue (.payload (.requestStream (d.stream i).id batch payload)) = d'
      at placed stream queued
    have made : e.open (.stream payload) batch = (.ok i, { e with connection := d' }) := by
      unfold «open» Connection.requestStream
      dsimp only
      rw [registered, ← opened]
      rfl
    have waits : (d'.stream i).poll = (.pending, d'.stream i, []) := by
      rw [stream]
      exact poll_requesterStream _ _
    have polled : e.pollItem n =
        (.pending, ({ e with connection := d' } : Endpoint).setRequest n (.opened i)) := by
      rw [pollItem_made held made, pollItem_opened (request?_setRequest_same _ n _), pullInbound_eq]
      dsimp only [setRequest]
      rw [waits, Connection.commit_same]
    have connection : (e.after (.call (.poll n (limit + 1)))).connection = d' := by
      rw [after, perform_first held, takeItems_pending (by rw [polled]), polled]
      rfl
    refine .inr ⟨i, begins_of_lane sound rfl ?_ ?_ ?_ (List.mem_singleton_self _)⟩
    · rw [connection]
      exact placed
    · rw [connection, stream]
      rfl
    · rw [lane, connection]
      exact queued

/-- A task takes the first item of a channel, whose stream was registered before. -/
theorem channel_begins {k : Nat} {batch : UInt32} {p : Producer} (h : e.Standing c₀)
    (piped : e.connection.Piped) (there : e.tasks[k]?.join = some (.openChannel i batch p))
    (goes : e.connection.isStopped i = false) (taken : (e.pull i p).1 = .item (.ok payload)) :
    e.Begins (.work k) (.requestChannel · batch payload false) i := by
  obtain ⟨placed, unopened, tended, refuses⟩ := h.orderly.tasks k _ there
  obtain ⟨live, unstopped⟩ := Bool.or_eq_false_iff.mp goes
  have live : e.connection.isActive = true := by simpa using live
  -- The way to the peer closes no earlier than the task is told to stop.
  have isOpen : (e.connection.stream i).isOver = false := by
    have outbound : (e.connection.stream i).closed.outbound = false :=
      Bool.eq_false_iff.mpr fun closed => by
        rw [tended closed] at unstopped
        contradiction
    rw [Exchange.isOver, outbound, Bool.and_false]
  have same : (e.pull i p).2.2.connection = e.connection := (pull_rests refuses).1.connection
  have connection : (e.after (.work k)).connection =
      e.connection.commit i { e.connection.stream i with initiated := true }
        [.payload (.requestChannel (e.connection.stream i).id batch payload false)] := by
    rw [after, stepWork, there]
    dsimp only
    rw [stepOpen, goes, if_neg Bool.false_ne_true]
    dsimp only
    rw [taken]
    dsimp only
    rw [same, Exchange.openChannel, if_neg (by simp [isOpen])]
    dsimp only [setTask, mapConnection]
    rw [same]
  have stream : (e.after (.work k)).connection.stream i =
      { e.connection.stream i with initiated := true } := by
    rw [connection, Connection.stream_commit _ placed, if_pos rfl]
  refine begins_of_lane (h.after (.work k)).sound rfl ?_ ?_ ?_ (List.mem_singleton_self _)
  · rw [connection, Connection.size_commit]
    exact placed
  · rw [stream]
    exact isOpen
  · rw [stream, lane, connection]
    refine (FrameQueue.lane_put e.connection.queue _ .normal .normal).trans ?_
    rw [if_pos ⟨piped.accepts.trans live, rfl⟩]
    rfl

/-- A payload that is passed on begins a stream, or is refused. -/
theorem Passes.begins (passes : e.Passes payload act opening) (h : e.Standing c₀)
    (start : c₀.Seated side) (piped : e.connection.Piped) :
    (∃ call, act = .call call ∧ e.Refuses side call) ∨ ∃ i, e.Begins act opening i := by
  cases passes with
  | response n =>
    exact (response_begins h start piped n payload).imp_left fun refused => ⟨_, rfl, refused⟩
  | stream held limit =>
    exact (stream_begins h start piped held limit).imp_left fun refused => ⟨_, rfl, refused⟩
  | channel there goes taken => exact .inr ⟨_, channel_begins h piped there goes taken⟩

/-! ### Off the queue -/

/-- A frame has left the queue: its bytes were handed to the transport, or it cannot be encoded,
with metadata that is too long. -/
inductive Left (f g : Endpoint) (frame : PayloadFrame) : Prop
  | handed {bytes : ByteArray} {since : List ByteArray}
      (encoded : (Frame.payload frame).encode = .ok bytes)
      (written : g.written.toList = f.written.toList ++ since) (mem : bytes ∈ since)
  | unencodable {metadata : ByteArray} (carries : frame.payload.metadata = some metadata)
      (long : maxLength < metadata.size)
      (fails : (Frame.payload frame).encode = .error (.tooLarge metadata.size maxLength))

theorem left_of_empty (piped : f.connection.Piped) {frame : PayloadFrame}
    (queued : .payload frame ∈ f.lane .normal) (later : List Act)
    (empty : (f.afterAll later).lane .normal = []) : f.Left (f.afterAll later) frame := by
  obtain ⟨handed, written, lanes⟩ := handed_over piped later
  obtain ⟨taken, part, balance⟩ := lanes .normal
  rw [empty, List.append_nil] at balance
  have member : .payload frame ∈ handed :=
    part.subset (balance ▸ List.mem_append_left _ queued)
  rcases Frame.encode_payload_cases frame with ⟨bytes, encoded⟩ | ⟨metadata, carries, long⟩
  · exact .handed encoded written (mem_wire member encoded)
  · exact .unencodable carries long (Frame.encode_payload_long carries long)

/-- When nothing can run, the loop that writes has ended or has written everything. -/
theorem empty_of_rest {inp : Pipe} (rest : e.readyTasks inp = []) (writes : e.writing = true)
    (lane : FrameQueue.Lane) : e.lane lane = [] := by
  have unready : e.connection.queue.isReady = false := Bool.eq_false_iff.mpr fun ready => by
    have member : TaskId.write ∈ e.readyTasks inp := by
      refine List.mem_map.mpr ⟨(.write, true), List.mem_filter.mpr ⟨?_, rfl⟩, rfl⟩
      rw [writes, ready]
      exact List.mem_append_left _ (List.mem_cons_self ..)
    rw [rest] at member
    contradiction
  simp only [FrameQueue.isReady, Bool.or_eq_false_iff, Bool.not_eq_false'] at unready
  exact (FrameQueue.isEmpty_iff _).mp unready.1.1 lane

/-- An endpoint does anything, with any peer and any transport, and then passes a payload on, to
open a stream with. Either no stream comes of it, as the caller is told at once or looks for an id
in vain, or the stream is registered and its opening is queued. Whenever the queue is empty after
that, the opening was handed to the transport, unless its metadata is too long to be encoded. When
nothing can run the queue is empty, or the connection is over, no stream of this end is registered,
and whoever asks for an answer or an item is told. -/
theorem no_request_lost (side : Side) (config : ConnectionConfig) (setup : Option Setup)
    (application : Application) {past : List Act}
    (passes : ((World.newEndpoint side config setup application).afterAll past).Passes payload act
      opening) :
    let e := (World.newEndpoint side config setup application).afterAll past
    let f := e.after act
    (∃ call, act = .call call ∧ e.Refuses side call) ∨
    ∃ i, e.Begins act opening i ∧ ∀ later inp,
      let g := f.afterAll later
      let frame := opening (f.connection.stream i).id
      ((∀ lane, g.lane lane = []) → f.Left g frame) ∧
      (g.readyTasks inp = [] → (∀ lane, g.lane lane = []) ∨
        g.connection.isActive = false ∧
          (∀ id j, g.connection.registry.get? id = some j →
            (g.connection.stream j).kind.isRequester = false) ∧
          ∀ n limit, (g.perform (.poll n limit)).1.waits = false) := by
  intro e f
  have fresh := World.piped_newEndpoint side config setup application
  have standing := (World.newEndpoint_standing side config setup application).afterAll past
  have piped : e.connection.Piped := piped_afterAll fresh past
  have start := (Connection.owned_new side config setup 0).toSeated
  refine (passes.begins standing start piped).imp_right fun ⟨i, begins⟩ => ⟨i, begins, ?_⟩
  intro later inp g frame
  have queued : .payload frame ∈ f.lane .normal := by
    have other : act.isWrite = false := by cases passes <;> rfl
    rw [lane_after other]
    exact List.mem_append_right _ begins.queued
  refine ⟨fun empty => left_of_empty (piped_after piped act) queued later (empty .normal),
    fun rest => ?_⟩
  cases active : g.connection.isActive with
  | true =>
    have all : g = (World.newEndpoint side config setup application).afterAll
        (past ++ act :: later) := by
      rw [afterAll_append]
      rfl
    have writes : g.writing = true := by
      rw [all] at active ⊢
      exact writing_afterAll fresh (fun _ => rfl) active
    exact .inl (empty_of_rest rest writes)
  | false =>
    have after := (standing.after act).afterAll later
    obtain ⟨_, history⟩ := after.evolves
    refine .inr ⟨rfl, fun id j held => Bool.eq_false_iff.mpr fun own => ?_,
      fun n limit => after.told rfl active n limit⟩
    obtain ⟨placed, named⟩ := after.sound.placed held
    have goes := (after.sound.registered j placed).mp (named.symm ▸ held)
    rw [history.isOver after.start rfl active placed own] at goes
    contradiction

/-- A client asks for an answer, and its frame is written before it comes to rest. -/
theorem no_request_lost_of_response :
    let e := World.newEndpoint .client {} none .empty
    let act := Act.call (.requestResponse "a" Payload.empty)
    let g := (e.after act).afterAll [.watch, .write {}]
    e.Passes Payload.empty act (.requestResponse · Payload.empty) ∧
      (∃ i, e.Begins act (.requestResponse · Payload.empty) i) ∧ g.readyTasks {} = [] ∧
      ∃ bytes ∈ g.written.toList,
        (Frame.payload (.requestResponse 1 Payload.empty)).encode = .ok bytes := by
  intro e act g
  have passes : (e.afterAll []).Passes Payload.empty act (.requestResponse · Payload.empty) :=
    .response "a"
  have empty : ∀ lane, g.lane lane = [] := fun lane => by cases lane <;> decide +kernel
  refine ⟨passes, ?_⟩
  rcases no_request_lost .client {} none .empty passes with
    ⟨call, same, refused⟩ | ⟨i, begins, later⟩
  · cases Act.call.inj same
    rcases refused.reason with ⟨cause, halted, _⟩ | ⟨_, taken⟩
    · contradiction
    · exact absurd (taken 3 ⟨⟨by decide, by decide⟩, by decide⟩) (by decide +kernel)
  · rw [afterAll_nil] at begins later
    refine ⟨⟨i, begins⟩, by decide +kernel, ?_⟩
    have queued : e.accepted act .normal = [.payload (.requestResponse 1 Payload.empty)] := by
      decide +kernel
    have frame := List.mem_singleton.mp (queued ▸ begins.queued)
    have left : (e.after act).Left g (.requestResponse ((e.after act).connection.stream i).id _) :=
      (later [.watch, .write {}] {}).1 empty
    cases left with
    | handed encoded written mem =>
      exact ⟨_, written ▸ List.mem_append_right _ mem, frame ▸ encoded⟩
    | unencodable carries long fails => contradiction

/-- The loop that writes passes a frame over that cannot be encoded. -/
theorem stepWrite_unencodable {frame : Frame} {queue : FrameQueue} {problem : FrameError}
    (next : e.connection.queue.dequeue = (.ready (.ok frame), queue))
    (fails : frame.encode = .error problem) (out : Pipe) :
    (e.stepWrite out).1 = e.mapConnection ({ · with queue }) := by
  rw [stepWrite, next]
  dsimp only
  rw [fails]

/-- A caller whose request was passed over waits, though nothing can run any more. -/
theorem waits_unencodable {problem : FrameError}
    (fails : (Frame.payload (.requestResponse 1 payload)).encode = .error problem) :
    let f := (World.newEndpoint .client {} none .empty).after (.call (.requestResponse "a" payload))
    let g := f.afterAll [.watch, .write {}]
    (∀ lane, g.lane lane = []) ∧ g.readyTasks {} = [] ∧ g.written.toList = [] ∧
      g.connection.registry.get? 1 = some 0 ∧ (g.perform (.poll "a" 1)).1.waits = true := by
  intro f g
  have next : (f.after .watch).connection.queue.dequeue =
      (.ready (.ok (.payload (.requestResponse 1 payload))), .empty) := rfl
  have passed : g = (f.after .watch).mapConnection ({ · with queue := .empty }) :=
    stepWrite_unencodable next fails {}
  rw [passed]
  exact ⟨fun lane => by cases lane <;> rfl, rfl, rfl, rfl, rfl⟩

/-- It does not hold that the frame is handed to the transport, or the stream is gone and the caller
is told: metadata of one byte more than its length can say leaves the caller waiting. -/
theorem request_passed_over : ¬ ∀ (payload : Payload) (later : List Act) (inp : Pipe),
    let f := (World.newEndpoint .client {} none .empty).after (.call (.requestResponse "a" payload))
    let g := f.afterAll later
    (∀ lane, g.lane lane = []) → g.readyTasks inp = [] →
      (∃ bytes ∈ g.written.toList,
        (Frame.payload (.requestResponse 1 payload)).encode = .ok bytes) ∨
      g.connection.registry.get? 1 = none ∧ (g.perform (.poll "a" 1)).1.waits = false := by
  intro always
  obtain ⟨payload, problem, fails⟩ : ∃ (payload : Payload) (problem : FrameError),
      (Frame.payload (.requestResponse 1 payload)).encode = .error problem := by
    let metadata : ByteArray := ⟨Array.replicate (maxLength + 1) 0⟩
    have long : maxLength < metadata.size :=
      Nat.lt_of_lt_of_eq (Nat.lt_succ_self _) Array.size_replicate.symm
    exact ⟨⟨.empty, some metadata⟩, _, Frame.encode_payload_long rfl long⟩
  obtain ⟨empty, rest, written, registered, waits⟩ := waits_unencodable fails
  rcases always payload [.watch, .write {}] {} empty rest with ⟨bytes, mem, _⟩ | ⟨gone, _⟩
  · rw [written] at mem
    contradiction
  · rw [registered] at gone
    contradiction

end Endpoint
end StreamMux
