import StreamMux.Connection.Dispatch
import StreamMux.Connection.KeepAlive
import StreamMux.Connection.Request
import StreamMux.Proofs.Exchange.Effect
import StreamMux.Proofs.StreamId.Search

/-!
# What can happen to a connection

The application and the peer can do their parts in any order; each call, poll, item, answer and
frame is one step (`Step`). Whatever the step, it does one of four things to the streams: nothing,
one move of one stream, one stream more, or the end of all of them (`Outcome`).
-/
namespace StreamMux

/-- The move is one of this end: the peer and the connection make the others. -/
def Exchange.Move.isLocal : Exchange.Move → Bool
  | receive .. | grant _ | cancelByPeer | fail _ => false
  | _ => true

namespace Connection

/-- This end asks for a stream. -/
inductive Asks (c d : Connection) : Prop
  | response (payload : Payload) {i : Nat} (made : c.requestResponse payload = .ok (i, d))
  | stream (batch : UInt32) (payload : Payload) {i : Nat}
      (made : c.requestStream batch payload = .ok (i, d))
  | channel (batch : UInt32) {i : Nat} (made : c.requestChannel batch = .ok (i, d))

/-- This end does something that is about none of its streams, or ends the connection. -/
inductive Serves (c d : Connection) : Prop
  | metadataPush (metadata : ByteArray) (made : c.metadataPush metadata = .ok d)
  | fireAndForget (payload : Payload) (made : c.fireAndForget payload = .ok d)
  | tick (now : Duration) (made : d = c.tick now)
  | teardown (cause : Failure) (made : d = c.teardown cause)
  | terminate (cause : Failure) (made : d = c.terminate cause)

/-- One thing that happens to a connection. -/
inductive Step : Connection → Connection → Prop
  | asks {c d : Connection} (made : c.Asks d) : Step c d
  | serves {c d : Connection} (made : c.Serves d) : Step c d
  /-- The application polls, lets go of, sends on or answers one of its streams. -/
  | act (c : Connection) (i : Nat) (m : Exchange.Move) (own : m.isLocal = true)
      (placed : i < c.streams.size) (fits : m.Fits (c.stream i)) :
      Step c (c.stepWriting i (m.apply ·))
  | dispatch (c : Connection) (keepsItems : Payload → Bool) (now : Duration) (frame : Frame) :
      Step c (c.dispatch keepsItems now frame).1
  /-- The frame that is next goes to the transport. -/
  | dequeue (c : Connection) : Step c { c with queue := c.queue.dequeue.2 }

/-- The frames of streams that a step added to those that wait. -/
def enqueued (c d : Connection) : List Frame :=
  d.queue.normal.toList.drop c.queue.normal.toList.length

/-- The stream at a place is the one that its id stands for. -/
def Registered (c : Connection) (i : Nat) : Prop := c.registry.get? (c.stream i).id = some i

/-- The frame is enqueued in a step for the stream at a place: it bears the id of the stream, and
the stream was registered under it before, or the step opens it. -/
def Concerns (c d : Connection) (i : Nat) (f : Frame) : Prop :=
  f.id = (d.stream i).id ∧
    (c.registry.get? f.id = some i ∨ c.streams.size ≤ i ∧ i < d.streams.size)

instance (c d : Connection) (i : Nat) (f : Frame) : Decidable (c.Concerns d i f) :=
  inferInstanceAs (Decidable (_ ∧ _))

/-- What a step enqueues for the stream at a place. -/
def enqueuedFor (c d : Connection) (i : Nat) : List Frame :=
  (c.enqueued d).filter (c.Concerns d i)

/-- A connection after any number of steps, and what was enqueued for each stream on the way. -/
inductive Run (c : Connection) : (Nat → List Frame) → Connection → Prop
  | start : Run c (fun _ => []) c
  | step {d e : Connection} {sent : Nat → List Frame} (run : Run c sent d) (next : Step d e) :
      Run c (fun i => sent i ++ d.enqueuedFor e i) e

/-! ### What holds in every state -/

/-- What the streams, the registry and the queue of a connection say about each other. -/
structure Sound (c : Connection) : Prop where
  coherent : ∀ i < c.streams.size, (c.stream i).Coherent
  /-- A stream is registered as long as one of its directions is open. -/
  registered : ∀ i < c.streams.size,
    c.registry.get? (c.stream i).id = some i ↔ (c.stream i).isOver = false
  placed : ∀ {id : UInt32} {i : Nat}, c.registry.get? id = some i →
    i < c.streams.size ∧ (c.stream i).id = id
  accepts : c.queue.accepts = c.isActive

/-- A stream of the given kind as it starts, and the frames that start it. -/
inductive Born : Exchange → List Frame → Prop
  | response (id : UInt32) (payload : Payload) :
      Born (.requesterResponse id) [.payload (.requestResponse id payload)]
  | stream (id batch : UInt32) (payload : Payload) :
      Born (.requesterStream batch id) [.payload (.requestStream id batch payload)]
  | channel (id batch : UInt32) : Born (.requesterChannel batch id) []
  | responder (id : UInt32) {kind : StreamKind} (initial : UInt32) {t : Exchange}
      {frames : List Frame} (answers : kind.isRequester = false)
      (effect : (Exchange.responder id kind initial).Effect t frames) : Born t frames

/-- What a step does to the streams. -/
inductive Outcome (c d : Connection) : Prop
  /-- No stream changes. A request that nothing is kept of may be enqueued. -/
  | still (streams : d.streams = c.streams) (registry : d.registry = c.registry)
      (active : d.isActive = c.isActive) (accepts : d.queue.accepts = c.queue.accepts)
      (enqueued : ∀ f ∈ c.enqueued d, f.type = .requestFnf ∧ c.registry.get? f.id = none)
  /-- One stream makes one move. -/
  | moved (i : Nat) {t : Exchange} {frames : List Frame} (placed : i < c.streams.size)
      (effect : (c.stream i).Effect t frames) (eq : d = c.commit i t frames)
  /-- There is one stream more. -/
  | opened {t : Exchange} {frames : List Frame} (born : Born t frames)
      (live : t.kind.isRequester = true → c.isActive = true)
      (free : c.registry.get? t.id = none) (streams : d.streams = c.streams.push t)
      (registry : ∀ k, d.registry.get? k =
        if k = t.id then if t.isOver then none else some c.streams.size else c.registry.get? k)
      (active : d.isActive = c.isActive) (accepts : d.queue.accepts = c.queue.accepts)
      (enqueued : c.enqueued d = if c.queue.accepts then frames else [])
  /-- The connection ends, and its streams with it. -/
  | torn (cause : Failure) (live : c.isActive = true)
      (streams : d.streams =
        c.registry.values.foldl (fun s i => s.modify i (·.fail cause)) c.streams)
      (registry : d.registry = .empty) (finished : d.isActive = false)
      (refuses : d.queue.accepts = false) (enqueued : c.enqueued d = [])

/-! ### The queue -/

theorem drop_added {before after added : List Frame} (h : after = before ++ added) :
    after.drop before.length = added := by
  rw [h, List.drop_left]

theorem accepts_enqueue (q : FrameQueue) (f : Frame) : (q.enqueue f).accepts = q.accepts := by
  unfold FrameQueue.enqueue
  split <;> rfl

theorem toList_enqueue (q : FrameQueue) (f : Frame) :
    (q.enqueue f).normal.toList = q.normal.toList ++ if q.accepts then [f] else [] := by
  unfold FrameQueue.enqueue
  split
  next accepts => simp
  next refuses => simp

theorem accepts_enqueuePriority (q : FrameQueue) (f : Frame) :
    (q.enqueuePriority f).accepts = q.accepts := by
  unfold FrameQueue.enqueuePriority
  split <;> rfl

theorem normal_enqueuePriority (q : FrameQueue) (f : Frame) :
    (q.enqueuePriority f).normal = q.normal := by
  unfold FrameQueue.enqueuePriority
  split <;> rfl

theorem accepts_foldl_enqueue (frames : List Frame) (q : FrameQueue) :
    (frames.foldl FrameQueue.enqueue q).accepts = q.accepts := by
  induction frames generalizing q with
  | nil => rfl
  | cons f frames ih => rw [List.foldl_cons, ih, accepts_enqueue]

theorem priority_foldl_enqueue (frames : List Frame) (q : FrameQueue) :
    (frames.foldl FrameQueue.enqueue q).priority = q.priority := by
  induction frames generalizing q with
  | nil => rfl
  | cons f frames ih =>
    rw [List.foldl_cons, ih, FrameQueue.enqueue]
    split <;> rfl

/-- A queue that accepts frames takes all of them, in their order. -/
theorem toList_foldl_enqueue (frames : List Frame) (q : FrameQueue) :
    (frames.foldl FrameQueue.enqueue q).normal.toList =
      q.normal.toList ++ if q.accepts then frames else [] := by
  induction frames generalizing q with
  | nil => simp
  | cons f frames ih =>
    rw [List.foldl_cons, ih, accepts_enqueue, toList_enqueue]
    by_cases accepts : q.accepts = true
    · simp [accepts]
    · simp [accepts]

theorem enqueued_of_same {c d : Connection} (h : d.queue.normal = c.queue.normal) :
    c.enqueued d = [] := by
  rw [enqueued, h, List.drop_length]

/-- Taking a frame off the queue adds none. -/
theorem dequeue_spec (q : FrameQueue) :
    q.dequeue.2.accepts = q.accepts ∧
      q.dequeue.2.normal.toList.length ≤ q.normal.toList.length := by
  unfold FrameQueue.dequeue FrameQueue.tryDequeue
  cases hp : q.priority.pop? with
  | some taken => exact ⟨rfl, Nat.le_refl _⟩
  | none =>
    cases hn : q.normal.pop? with
    | some taken =>
      obtain ⟨f, rest⟩ := taken
      have split := Fifo.pop?_eq_some hn
      exact ⟨rfl, by simp [split]⟩
    | none =>
      dsimp only [Option.map]
      split
      · exact ⟨rfl, Nat.le_refl _⟩
      · exact ⟨rfl, Nat.le_refl _⟩

/-! ### Placing and committing -/

theorem stream_push {streams : Array Exchange} {t : Exchange} {c d : Connection}
    (hc : c.streams = streams) (hd : d.streams = streams.push t) (j : Nat) :
    d.stream j = if j = streams.size then t else c.stream j := by
  subst hc
  unfold stream
  rw [hd, Array.getElem?_push]
  split
  · rfl
  · rfl

theorem stream_commit (c : Connection) {i : Nat} (placed : i < c.streams.size) (t : Exchange)
    (frames : List Frame) (j : Nat) :
    (c.commit i t frames).stream j = if j = i then t else c.stream j := by
  unfold commit stream
  dsimp only
  rw [Array.getElem?_setIfInBounds]
  by_cases same : i = j
  · subst same
    simp [placed]
  · simp [same, Ne.symm same]

theorem size_commit (c : Connection) (i : Nat) (t : Exchange) (frames : List Frame) :
    (c.commit i t frames).streams.size = c.streams.size := by
  simp [commit]

theorem enqueued_commit (c : Connection) (i : Nat) (t : Exchange) (frames : List Frame) :
    c.enqueued (c.commit i t frames) = if c.queue.accepts then frames else [] :=
  drop_added (toList_foldl_enqueue frames c.queue)

theorem accepts_commit (c : Connection) (i : Nat) (t : Exchange) (frames : List Frame) :
    (c.commit i t frames).queue.accepts = c.queue.accepts :=
  accepts_foldl_enqueue frames c.queue

/-! ### Outcomes -/

theorem get?_of_free {r : Registry Nat} {id : UInt32} (h : r.contains id = false) :
    r.get? id = none := by
  simpa [Registry.contains] using h

theorem get?_of_insert? {r s : Registry Nat} {id : UInt32} {i : Nat}
    (h : r.insert? id i = some s) : r.get? id = none := by
  unfold Registry.insert? at h
  split at h
  · contradiction
  next free => exact get?_of_free (by simpa using free)

/-- Where a stream of this end is put, and under which id. -/
theorem register_ok {c d : Connection} {make : UInt32 → Exchange} {i : Nat}
    (named : ∀ id, (make id).id = id) (h : c.register make = .ok (i, d)) :
    c.isActive = true ∧ ∃ id ids registry, c.ids.next? c.registry.contains = some (id, ids) ∧
      c.registry.insert? id c.streams.size = some registry ∧ i = c.streams.size ∧
      d = { c with ids, registry, streams := c.streams.push (make id) } := by
  unfold register at h
  split at h
  · contradiction
  next live =>
    refine ⟨by simp [isActive, live], ?_⟩
    split at h
    · contradiction
    next id ids found =>
      split at h
      · contradiction
      next registered inserted =>
        simp only [insert?, named, Option.map_eq_some_iff] at inserted
        obtain ⟨registry, hr, rfl⟩ := inserted
        cases h
        exact ⟨id, ids, registry, found, hr, rfl, rfl⟩

/-- A stream that was placed and registered, and the frames enqueued with it. -/
theorem opened_of_insert? {c d : Connection} {t : Exchange} {registry : Registry Nat}
    {frames : List Frame} (born : Born t frames) (live : t.isOver = false)
    (asks : t.kind.isRequester = true → c.isActive = true)
    (inserted : c.registry.insert? t.id c.streams.size = some registry)
    (registered : d.registry = registry) (streams : d.streams = c.streams.push t)
    (active : d.isActive = c.isActive)
    (queue : d.queue = frames.foldl FrameQueue.enqueue c.queue) : c.Outcome d := by
  refine .opened born asks (get?_of_insert? inserted) streams (fun k => ?_) active ?_ ?_
  · rw [registered, Registry.get?_insert? inserted]
    simp [live]
  · rw [queue, accepts_foldl_enqueue]
  · exact drop_added (queue ▸ toList_foldl_enqueue frames c.queue)

/-- A stream of this end is registered, and its request enqueued. -/
theorem requested_outcome {c d : Connection} {make : UInt32 → Exchange} (request : UInt32 → Frame)
    {i : Nat} (named : ∀ id, (make id).id = id) (live : ∀ id, (make id).isOver = false)
    (born : ∀ id, Born (make id) [request id]) (registered : c.register make = .ok (i, d)) :
    c.Outcome (d.enqueue (request (d.stream i).id)) := by
  obtain ⟨active, id, ids, registry, _, inserted, rfl, rfl⟩ := register_ok named registered
  rw [stream_push rfl rfl, if_pos rfl, named]
  exact opened_of_insert? (born id) (live id) (fun _ => active) (by rw [named]; exact inserted)
    rfl rfl rfl rfl

theorem requestResponse_outcome {c d : Connection} {payload : Payload} {i : Nat}
    (made : c.requestResponse payload = .ok (i, d)) : c.Outcome d := by
  unfold requestResponse at made
  cases registered : c.register Exchange.requesterResponse with
  | error cause => simp [registered, bind, Except.bind] at made
  | ok placed =>
    rw [registered] at made
    cases made
    exact requested_outcome (fun id => .payload (.requestResponse id payload)) (fun _ => rfl)
      (fun _ => rfl) (fun id => .response id payload) registered

theorem requestStream_outcome {c d : Connection} {batch : UInt32} {payload : Payload} {i : Nat}
    (made : c.requestStream batch payload = .ok (i, d)) : c.Outcome d := by
  unfold requestStream at made
  cases registered : c.register (Exchange.requesterStream batch) with
  | error cause => simp [registered, bind, Except.bind] at made
  | ok placed =>
    rw [registered] at made
    cases made
    exact requested_outcome (fun id => .payload (.requestStream id batch payload)) (fun _ => rfl)
      (fun _ => rfl) (fun id => .stream id batch payload) registered

theorem requestChannel_outcome {c d : Connection} {batch : UInt32} {i : Nat}
    (made : c.requestChannel batch = .ok (i, d)) : c.Outcome d := by
  obtain ⟨active, id, ids, registry, _, inserted, _, rfl⟩ := register_ok (fun _ => rfl) made
  exact opened_of_insert? (.channel id batch) rfl (fun _ => active) inserted rfl rfl rfl rfl

/-- Neither the streams nor what waits of them changes. -/
theorem quiet_outcome {c d : Connection} (streams : d.streams = c.streams)
    (registry : d.registry = c.registry) (terminal : d.terminal = c.terminal)
    (accepts : d.queue.accepts = c.queue.accepts) (normal : d.queue.normal = c.queue.normal) :
    c.Outcome d := by
  refine .still streams registry (by rw [isActive, isActive, terminal]) accepts ?_
  rw [enqueued_of_same normal]
  simp

/-- Putting a frame of the connection into its own lane changes no stream. -/
theorem enqueuePriority_outcome (c : Connection) (frame : Frame) :
    c.Outcome (c.enqueuePriority frame) :=
  quiet_outcome rfl rfl rfl (accepts_enqueuePriority _ _) (normal_enqueuePriority _ _)

theorem metadataPush_outcome {c d : Connection} {metadata : ByteArray}
    (made : c.metadataPush metadata = .ok d) : c.Outcome d := by
  unfold metadataPush at made
  split at made
  · contradiction
  · split at made
    · cases made
      exact c.enqueuePriority_outcome _
    · contradiction

theorem fireAndForget_outcome {c d : Connection} {payload : Payload}
    (made : c.fireAndForget payload = .ok d) : c.Outcome d := by
  unfold fireAndForget at made
  split at made
  · contradiction
  · split at made
    · contradiction
    next id ids found =>
      split at made
      next accepts =>
        cases made
        refine .still rfl rfl rfl (accepts_enqueue _ _) fun f hf => ?_
        have added : c.enqueued ({ c with ids }.enqueue (.payload (.fireAndForget id payload))) =
            if c.queue.accepts then [.payload (.fireAndForget id payload)] else [] :=
          drop_added (toList_enqueue c.queue _)
        rw [added, if_pos accepts, List.mem_singleton] at hf
        rw [hf]
        exact ⟨rfl, get?_of_free (StreamIds.next?_ok found).free⟩
      · contradiction

theorem teardown_outcome (c : Connection) (cause : Failure) : c.Outcome (c.teardown cause) := by
  unfold teardown
  split
  · exact quiet_outcome rfl rfl rfl rfl rfl
  next live =>
    refine .torn cause (by simp [isActive, live]) rfl rfl rfl ?_ (enqueued_of_same rfl)
    simp [FrameQueue.accepts, FrameQueue.isClosed, FrameQueue.close]

theorem terminate_outcome (c : Connection) (cause : Failure) : c.Outcome (c.terminate cause) := by
  unfold terminate
  split
  · exact quiet_outcome rfl rfl rfl rfl rfl
  next live =>
    have same : (c.enqueuePriority cause.closingFrame).terminal = none := live
    unfold teardown
    rw [same]
    refine .torn cause (by simp [isActive, live]) rfl rfl rfl ?_
      (enqueued_of_same (normal_enqueuePriority _ _))
    simp [FrameQueue.accepts, FrameQueue.isClosed, FrameQueue.close]

theorem tick_outcome (c : Connection) (now : Duration) : c.Outcome (c.tick now) := by
  unfold tick
  split
  · exact c.terminate_outcome _
  · exact c.enqueuePriority_outcome _

theorem dequeue_outcome (c : Connection) :
    c.Outcome { c with queue := c.queue.dequeue.2 } := by
  have spec := dequeue_spec c.queue
  refine .still rfl rfl rfl spec.1 ?_
  rw [enqueued, List.drop_of_length_le spec.2]
  simp

/-! ### Frames of the peer -/

theorem hear_outcome (c : Connection) (now : Duration) (respond : Bool) :
    c.Outcome (c.hear now respond) := by
  unfold hear
  split
  · exact quiet_outcome rfl rfl rfl (accepts_enqueuePriority _ _) (normal_enqueuePriority _ _)
  · exact quiet_outcome rfl rfl rfl rfl rfl

/-- A move of the stream that is registered under an id. -/
theorem stepRegistered_outcome {c : Connection} (h : c.Sound) (id : UInt32)
    {f : Exchange → Exchange} (effect : ∀ s : Exchange, s.Coherent → s.Effect (f s) []) :
    c.Outcome (c.stepRegistered id f) := by
  unfold stepRegistered
  split
  next i registered =>
    have placed := (h.placed registered).1
    exact .moved i placed (effect _ (h.coherent i placed)) rfl
  · exact quiet_outcome rfl rfl rfl rfl rfl

/-- A stream as the peer opens it. -/
theorem responder_coherent (id : UInt32) {kind : StreamKind} (initial : UInt32)
    (answers : kind.isRequester = false) : (Exchange.responder id kind initial).Coherent := by
  cases kind <;> simp [StreamKind.isRequester] at answers <;> constructor <;>
    simp [Exchange.responder, StreamKind.initiallyClosed, StreamKind.hasConsumer]

theorem insert?_stream {c d : Connection} {s : Exchange} {i : Nat}
    (inserted : c.insert? s = some (i, d)) : d.stream i = s := by
  simp only [insert?, Option.map_eq_some_iff] at inserted
  obtain ⟨registry, _, eq⟩ := inserted
  cases eq
  rw [stream_push rfl rfl, if_pos rfl]

/-- The stream that was placed last makes a move in the same step. -/
theorem opened_of_commit {c d : Connection} {s t : Exchange} {i : Nat} {frames : List Frame}
    (inserted : c.insert? s = some (i, d)) (live : s.isOver = false) (named : t.id = s.id)
    (answers : t.kind.isRequester = false) (born : Born t frames) :
    c.Outcome (d.commit i t frames) := by
  have last := insert?_stream inserted
  simp only [insert?, Option.map_eq_some_iff] at inserted
  obtain ⟨registry, inserted, eq⟩ := inserted
  cases eq
  refine .opened born (by simp [answers]) (named ▸ get?_of_insert? inserted) ?_ (fun k => ?_) rfl
    (accepts_foldl_enqueue _ _) (drop_added (toList_foldl_enqueue frames c.queue))
  · simp [commit, Array.setIfInBounds, Array.set_push]
  · simp only [commit, last, live, named]
    by_cases finished : t.isOver = true
    · by_cases same : k = s.id
      · simp [finished, Registry.get?_erase, same]
      · simp [finished, Registry.get?_erase, Registry.get?_insert? inserted, same]
    · simp [finished, Registry.get?_insert? inserted]

/-- A request of the peer opens a stream and starts its work at once. -/
theorem accept_outcome (c : Connection) (keepsItems : Payload → Bool) (f : PayloadFrame) :
    c.Outcome (c.accept keepsItems f).1 := by
  unfold accept
  split
  · exact quiet_outcome rfl rfl rfl rfl rfl
  next kind opens =>
    split
    · exact quiet_outcome rfl rfl rfl rfl rfl
    · split
      · exact quiet_outcome rfl rfl rfl rfl rfl
      next i d inserted =>
        have answers : kind.isRequester = false := by
          revert opens
          cases f.type <;> simp [StreamKind.ofRequest?] <;> rintro rfl <;> rfl
        have live : (Exchange.responder f.id kind f.initial).isOver = false := by
          cases kind <;> rfl
        have last : d.stream i = .responder f.id kind f.initial := insert?_stream inserted
        have effect := Exchange.receive_effect (responder_coherent f.id f.initial answers)
          { batch := d.config.prefetch, keepsItems } f
        unfold receive
        rw [last]
        exact opened_of_commit inserted live effect.id (effect.kind ▸ answers)
          (.responder f.id f.initial answers effect)

theorem dispatch_outcome {c : Connection} (h : c.Sound) (keepsItems : Payload → Bool)
    (now : Duration) (frame : Frame) : c.Outcome (c.dispatch keepsItems now frame).1 := by
  unfold dispatch
  split
  · exact c.hear_outcome _ _
  · exact quiet_outcome rfl rfl rfl rfl rfl
  · exact quiet_outcome rfl rfl rfl rfl rfl
  · exact quiet_outcome rfl rfl rfl rfl rfl
  · dsimp only
    split
    · exact c.teardown_outcome _
    · exact stepRegistered_outcome h _ fun s hs => Exchange.fail_effect hs _
  · exact stepRegistered_outcome h _ fun s hs => Exchange.grant_effect hs _
  · exact stepRegistered_outcome h _ fun s hs => Exchange.cancelByPeer_effect hs
  next f =>
    split
    next i registered =>
      split
      · exact quiet_outcome rfl rfl rfl rfl rfl
      · have placed := (h.placed registered).1
        exact .moved i placed (Exchange.receive_effect (h.coherent i placed) _ f) rfl
    · exact c.accept_outcome _ _

theorem Asks.outcome {c d : Connection} (made : c.Asks d) : c.Outcome d := by
  cases made with
  | response payload made => exact requestResponse_outcome made
  | stream batch payload made => exact requestStream_outcome made
  | channel batch made => exact requestChannel_outcome made

theorem Serves.outcome {c d : Connection} (made : c.Serves d) : c.Outcome d := by
  cases made with
  | metadataPush metadata made => exact metadataPush_outcome made
  | fireAndForget payload made => exact fireAndForget_outcome made
  | tick now made => exact made ▸ c.tick_outcome now
  | teardown cause made => exact made ▸ c.teardown_outcome cause
  | terminate cause made => exact made ▸ c.terminate_outcome cause

/-- What a step can do. -/
theorem Step.outcome {c d : Connection} (step : Step c d) (h : c.Sound) : c.Outcome d := by
  cases step with
  | asks made => exact made.outcome
  | serves made => exact made.outcome
  | act i m own placed fits => exact .moved i placed (m.effect (h.coherent i placed) fits) rfl
  | dispatch keepsItems now frame => exact dispatch_outcome h keepsItems now frame
  | dequeue => exact c.dequeue_outcome

end Connection
end StreamMux
