import StreamMux.Proofs.Agreement.Telling
import StreamMux.Proofs.Connection.Arrival

/-!
# What an end hears of a stream

Frames go over the wire in one piece (`Frame.IsWhole`). One that belongs to a stream that was opened
before makes of the stream what its signal says (`Exchange.take_closed`) and nothing else happens
(`Connection.dispatch_inner`); a stream that is over does not notice (`Connection.dispatch_late`). A
request of the peer opens a stream and starts the work for it (`Connection.dispatch_opens`).
-/
namespace StreamMux

/-- The frame is not a fragment of a payload. -/
def Frame.IsWhole : Frame → Prop
  | .payload f => f.follows = false ∧ f.type.carries
  | _ => True

/-- How a stream is called at the other end. -/
def StreamKind.answering : StreamKind → StreamKind
  | requesterResponse => responderResponse
  | requesterStream => responderStream
  | requesterChannel => responderChannel
  | kind => kind

/-- What is written on a stream is in one piece. -/
theorem Exchange.Writes.whole {s t : Exchange} {frames : List Frame} (h : s.Writes t frames) :
    ∀ f ∈ frames, f.IsWhole := by
  cases h <;> simp [Frame.IsWhole, Failure.streamFrame, PayloadFrame.item, PayloadFrame.completion,
    PayloadFrame.lastItem, PayloadFrame.requestChannel, FrameType.carries, FrameType.opensStream]

/-- Within a stream payloads come in PAYLOAD frames only. -/
theorem Frame.inner_payload {f : PayloadFrame} (whole : (Frame.payload f).IsWhole)
    (inner : (Frame.payload f).signal.isInner = true) :
    f.type = .payload ∧ f.follows = false ∧ (f.next = true ∨ f.complete = true) := by
  obtain ⟨type, id, follows, complete, next, initial, payload⟩ := f
  obtain ⟨whole, carries⟩ := whole
  refine ⟨?_, whole, ?_⟩
  · rcases carries with opens | plain
    · cases type <;> contradiction
    · exact plain
  · cases next <;> cases complete <;> cases type <;> simp [Frame.signal, Signal.isInner] at inner ⊢

/-- What such a frame says. -/
theorem Frame.signal_inner {f : PayloadFrame} (plain : f.type = .payload)
    (content : f.next = true ∨ f.complete = true) : (Frame.payload f).signal =
      if f.next = true then (if f.complete = true then .lastItem else .item) else .completion := by
  unfold Frame.signal
  dsimp only
  rw [plain]
  rcases content with next | complete
  · rw [next]
    cases f.complete <;> rfl
  · rw [complete]
    cases f.next <;> rfl

/-- The type of a frame tells which kind of stream it opens. -/
theorem Frame.type_of_opens {f : PayloadFrame} {kind : StreamKind}
    (opens : kind.opensWith (Frame.payload f).signal = true) :
    kind = .requesterResponse ∧ f.type = .requestResponse ∨
      kind = .requesterStream ∧ f.type = .requestStream ∨
      kind = .requesterChannel ∧ f.type = .requestChannel := by
  obtain ⟨type, id, follows, complete, next, initial, payload⟩ := f
  cases type <;> cases next <;> cases complete <;> cases kind <;>
    simp [Frame.signal, StreamKind.opensWith] at opens ⊢

namespace Exchange

/-- What a frame of the peer makes of the stream of its id. -/
def take (s : Exchange) (uptake : Uptake) : Frame → Exchange
  | .payload f => (s.receive uptake f).stream
  | .requestN _ n => s.grant n.toNat
  | .cancel _ => s.cancelByPeer
  | .error _ code message => s.fail (.ofErrorFrame code message)
  | _ => s

/-- Payloads that come in start no work: the stream takes items, or nothing. -/
def Listens (s : Exchange) : Prop :=
  s.closed.inbound = true ∨ s.kind.isRequester = true ∨
    s.kind = .responderChannel ∧ s.started = true

variable {s : Exchange}

/-- A payload for a stream that takes items. -/
theorem deliver_listens (listens : s.Listens) (isOpen : s.closed.inbound = false) (uptake : Uptake)
    (payload : Payload) :
    (s.deliver uptake payload).frames = [] ∧ (s.deliver uptake payload).started = none ∧
      (s.deliver uptake payload).stream.kind = s.kind ∧
      (s.deliver uptake payload).stream.closed =
        if s.kind = .requesterResponse then { s.closed with inbound := true } else s.closed := by
  have kept := s.deposit_stays (.ok payload)
  unfold deliver
  split
  next kind =>
    have settled := s.settle_stays (.ok payload)
    refine ⟨rfl, rfl, settled.kind, ?_⟩
    rw [if_pos kind, close, settled.closed]
    simp [Directions.union, Directions.inboundOnly]
  next kind => exact ⟨rfl, rfl, kept.kind, by rw [kept.closed, if_neg (by simp [kind])]⟩
  next kind => exact ⟨rfl, rfl, kept.kind, by rw [kept.closed, if_neg (by simp [kind])]⟩
  next notResponse notStream notChannel =>
    obtain ⟨channel, started⟩ : s.kind = .responderChannel ∧ s.started = true := by
      rcases listens with closed | requester | taken
      · rw [closed] at isOpen
        contradiction
      · cases kind : s.kind <;> simp_all [StreamKind.isRequester]
      · exact taken
    rw [if_pos started, if_pos channel]
    exact ⟨rfl, rfl, kept.kind, by rw [kept.closed, if_neg (by simp [channel])]⟩

theorem completeInbound_closed (takes : s.kind.isRequester = true ∨ s.kind = .responderChannel) :
    s.completeInbound.closed = { s.closed with inbound := true } := by
  unfold completeInbound
  split
  · rw [close, (s.settle_stays _).closed]
    simp [Directions.union, Directions.inboundOnly]
  · simp [close, endInbox, Directions.union, Directions.inboundOnly]
  · simp [close, endInbox, Directions.union, Directions.inboundOnly]
  · simp [close, endInbox, Directions.union, Directions.inboundOnly]
  · rcases takes with requester | channel
    · cases kind : s.kind <;> simp_all [StreamKind.isRequester]
    · contradiction

/-- A stream that takes items hears a frame with a payload. -/
theorem receive_open (listens : s.Listens) (isOpen : s.closed.inbound = false) (uptake : Uptake)
    {f : PayloadFrame} (whole : f.follows = false) (content : f.next = true ∨ f.complete = true)
    (single : s.kind = .requesterResponse → f.next = true → f.complete = true) :
    (s.receive uptake f).frames = [] ∧ (s.receive uptake f).started = none ∧
      (s.receive uptake f).stream.closed =
        if f.complete = true then { s.closed with inbound := true } else s.closed := by
  have takes : s.kind.isRequester = true ∨ s.kind = .responderChannel := by
    rcases listens with closed | requester | channel
    · rw [closed] at isOpen
      contradiction
    · exact .inl requester
    · exact .inr channel.1
  have delivered := deliver_listens (s := { s with fragments := none }) listens isOpen uptake
  unfold receive
  rw [if_neg (by simp [isOpen]), whole]
  dsimp only
  rw [if_neg (by simp)]
  by_cases complete : f.complete = true
  · rw [if_pos complete, if_pos complete]
    -- The end of the items closes the direction, whether or not a payload comes with it.
    by_cases carries : s.carriesPayload f = true
    · rw [if_pos carries]
      obtain ⟨silent, idle, kind, closed⟩ := delivered _
      have last := completeInbound_closed (kind ▸ takes)
      exact ⟨silent, idle, last.trans (by rw [closed]; split <;> rfl)⟩
    · rw [if_neg carries]
      exact ⟨rfl, rfl, completeInbound_closed takes⟩
  · have next : f.next = true := content.resolve_right complete
    have carries : s.carriesPayload f = true := by simp [carriesPayload, next]
    rw [if_neg complete, if_neg complete, if_pos carries]
    obtain ⟨silent, idle, _, closed⟩ := delivered _
    exact ⟨silent, idle, closed.trans (if_neg fun response => complete (single response next))⟩

/-- A frame with a payload makes nothing happen but on the stream, where it is heard. -/
theorem receive_listens (listens : s.Listens) (uptake : Uptake) {f : PayloadFrame}
    (whole : (Frame.payload f).IsWhole) (inner : (Frame.payload f).signal.isInner = true)
    (single : s.kind = .requesterResponse → (Frame.payload f).signal ≠ .item) :
    (s.receive uptake f).frames = [] ∧ (s.receive uptake f).started = none ∧
      (s.receive uptake f).stream.closed =
        s.kind.heard s.closed (Frame.payload f).signal := by
  obtain ⟨plain, oneFrame, content⟩ := Frame.inner_payload whole inner
  have signal := Frame.signal_inner plain content
  cases isOpen : s.closed.inbound with
  | true =>
    have same : { s.closed with inbound := true } = s.closed := by rw [← isOpen]
    rw [receive_closed isOpen, signal]
    refine ⟨rfl, rfl, ?_⟩
    split
    · split
      · exact same.symm
      · rfl
    · exact same.symm
  | false =>
    have last (response : s.kind = .requesterResponse) (next : f.next = true) :
        f.complete = true := by
      have other := single response
      rw [signal, if_pos next] at other
      exact Classical.byContradiction fun more => other (if_neg more)
    obtain ⟨silent, idle, closed⟩ := receive_open listens isOpen uptake oneFrame content last
    refine ⟨silent, idle, closed.trans ?_⟩
    rw [signal]
    rcases content with next | complete
    · rw [if_pos next]
      split <;> rfl
    · rw [if_pos complete]
      split <;> rfl

theorem take_closed (listens : s.Listens) (uptake : Uptake) {frame : Frame} (whole : frame.IsWhole)
    (inner : frame.signal.isInner = true)
    (single : s.kind = .requesterResponse → frame.signal ≠ .item) :
    (s.take uptake frame).closed = s.kind.heard s.closed frame.signal := by
  cases frame with
  | payload f => exact (receive_listens listens uptake whole inner single).2.2
  | requestN id n =>
    obtain ⟨limiter, eq⟩ := s.grant_eq n.toNat
    rw [take, eq]
    rfl
  | cancel id =>
    rw [take, cancelByPeer, Frame.signal]
    split
    next kind =>
      rw [kind]
      simp [close, stop, StreamKind.heard, Directions.union, Directions.outboundOnly]
    next kind => rw [kind]; rfl
    next kind => rw [kind]; rfl
    next notChannel notResponse notStream =>
      obtain ⟨inbox, eq⟩ := ((s.close Directions.both).stop).failInbox_eq
        (.canceled "stream canceled by requester")
      rw [eq]
      have both : s.kind.heard s.closed .cancel = Directions.both := by
        cases kind : s.kind <;> first | rfl | contradiction
      rw [both]
      exact Directions.union_both _
  | error id code message =>
    obtain ⟨inbox, answer, eq⟩ := s.fail_eq (.ofErrorFrame code message)
    rw [take, eq]
    rfl
  | _ => contradiction

theorem take_effect (h : s.Coherent) (listens : s.Listens) (uptake : Uptake) {frame : Frame}
    (whole : frame.IsWhole) (inner : frame.signal.isInner = true)
    (single : s.kind = .requesterResponse → frame.signal ≠ .item) :
    s.Effect (s.take uptake frame) [] := by
  cases frame with
  | payload f =>
    have effect := receive_effect h uptake f
    rw [(receive_listens listens uptake whole inner single).1] at effect
    exact effect
  | requestN id n => exact grant_effect h _
  | cancel id => exact cancelByPeer_effect h
  | error id code message => exact fail_effect h _
  | _ => contradiction

/-- A stream that the peer opens takes up the request for it. -/
theorem receive_request (id : UInt32) (uptake : Uptake) {f : PayloadFrame} {kind : StreamKind}
    (whole : f.follows = false) (opens : kind.opensWith (Frame.payload f).signal = true) :
    ∃ refused, let r := (responder id kind.answering f.initial).receive uptake f
      r.stream.started = true ∧ r.stream.closed = (Frame.payload f).signal.opening refused ∧
        r.frames = if refused = true then [.cancel id] else [] := by
  have types := Frame.type_of_opens opens
  obtain ⟨type, own, follows, complete, next, initial, payload⟩ := f
  subst whole
  rcases types with ⟨rfl, rfl⟩ | ⟨rfl, rfl⟩ | ⟨rfl, rfl⟩
  · refine ⟨false, ?_⟩
    cases complete <;> cases next <;> exact ⟨rfl, rfl, rfl⟩
  · refine ⟨false, ?_⟩
    cases complete <;> cases next <;> exact ⟨rfl, rfl, rfl⟩
  · cases keeps : uptake.keepsItems payload with
    | true =>
      refine ⟨false, ?_⟩
      cases complete <;> simp [receive, responder, StreamKind.answering, StreamKind.initiallyClosed,
        carriesPayload, FrameType.opensStream, deliver, keeps, completeInbound, close, endInbox,
        Signal.opening, Frame.signal, Directions.union, Directions.inboundOnly]
    | false =>
      refine ⟨true, ?_⟩
      cases complete <;> simp [receive, responder, StreamKind.answering, StreamKind.initiallyClosed,
        carriesPayload, FrameType.opensStream, deliver, keeps, completeInbound, close, endInbox,
        Signal.opening, Frame.signal, Directions.union, Directions.inboundOnly, dropConsumer,
        StreamKind.isRequester, cancelLocally]

end Exchange

theorem ofRequest?_of_opens {f : PayloadFrame} {kind : StreamKind}
    (opens : kind.opensWith (Frame.payload f).signal = true) :
    StreamKind.ofRequest? f.type = some kind.answering := by
  rcases Frame.type_of_opens opens with ⟨rfl, type⟩ | ⟨rfl, type⟩ | ⟨rfl, type⟩
  all_goals
    rw [type]
    rfl

namespace Connection

variable {id : UInt32} {c : Connection} {i : Nat} {s : Exchange} (keepsItems : Payload → Bool)
  (now : Duration) {frame : Frame}

/-- A frame within a stream that goes on concerns that stream only. -/
theorem dispatch_inner (holds : c.Holds id i s) (nonzero : id ≠ 0) (goes : s.isOver = false)
    (listens : s.Listens) (named : frame.id = id) (whole : frame.IsWhole)
    (inner : frame.signal.isInner = true)
    (single : s.kind = .requesterResponse → frame.signal ≠ .item) :
    c.dispatch keepsItems now frame =
      (c.commit i (s.take { batch := c.config.prefetch, keepsItems } frame) [], none) := by
  have found := holds.get? goes
  subst named
  cases frame with
  | payload f =>
    obtain ⟨silent, idle, _⟩ := Exchange.receive_listens listens
      { batch := c.config.prefetch, keepsItems } whole inner single
    have plain := (Frame.inner_payload whole inner).1
    unfold dispatch
    dsimp only
    rw [show c.registry.get? f.id = some i from found]
    dsimp only
    rw [plain, if_neg (by decide), receive, holds.stream, silent, idle]
    rfl
  | requestN id n =>
    unfold dispatch
    dsimp only
    rw [stepRegistered, show c.registry.get? id = some i from found]
    dsimp only
    rw [step, holds.stream]
    rfl
  | cancel id =>
    unfold dispatch
    dsimp only
    rw [stepRegistered, show c.registry.get? id = some i from found]
    dsimp only
    rw [step, holds.stream]
    rfl
  | error id code message =>
    unfold dispatch
    dsimp only
    rw [if_neg (show id ≠ 0 from nonzero), stepRegistered,
      show c.registry.get? id = some i from found]
    dsimp only
    rw [step, holds.stream]
    rfl
  | _ => contradiction

/-- A frame within a stream that is over is dropped. -/
theorem dispatch_late (gone : c.registry.get? id = none) (nonzero : id ≠ 0) (named : frame.id = id)
    (whole : frame.IsWhole) (inner : frame.signal.isInner = true) :
    c.dispatch keepsItems now frame = (c, none) := by
  subst named
  cases frame with
  | payload f =>
    have plain := (Frame.inner_payload whole inner).1
    unfold dispatch
    dsimp only
    rw [show c.registry.get? f.id = none from gone]
    dsimp only
    rw [accept, plain]
    rfl
  | requestN id n =>
    unfold dispatch
    dsimp only
    rw [stepRegistered, show c.registry.get? id = none from gone]
  | cancel id =>
    unfold dispatch
    dsimp only
    rw [stepRegistered, show c.registry.get? id = none from gone]
  | error id code message =>
    unfold dispatch
    dsimp only
    rw [if_neg (show id ≠ 0 from nonzero), stepRegistered, show c.registry.get? id = none from gone]
  | _ => contradiction

/-- A request of the peer for a stream that is not there opens it. -/
theorem dispatch_opens (lacks : c.Lacks id) (foreign : c.side.owns id = false) {f : PayloadFrame}
    {kind : StreamKind} (named : f.id = id) (whole : f.follows = false)
    (opens : kind.opensWith (Frame.payload f).signal = true) :
    ∃ t refused, c.Grows (c.dispatch keepsItems now (.payload f)).1 ∧
      (c.dispatch keepsItems now (.payload f)).1.Holds id c.streams.size t ∧
      t.kind = kind.answering ∧ t.started = true ∧
      t.closed = (Frame.payload f).signal.opening refused ∧
      (c.dispatch keepsItems now (.payload f)).1.waiting =
        c.waiting ++ if c.queue.accepts = true ∧ refused = true then [.cancel id] else [] := by
  let uptake : Exchange.Uptake := { batch := c.config.prefetch, keepsItems }
  let s := Exchange.responder id kind.answering f.initial
  obtain ⟨refused, started, closed, frames⟩ :=
    Exchange.receive_request id uptake whole opens
  have responder : kind.answering.isRequester = false := by
    cases kind <;> first | contradiction | rfl
  have effect := Exchange.receive_effect (responder_coherent id f.initial responder) uptake f
  have goes : s.isOver = false := by cases kind <;> rfl
  obtain ⟨d, placing, holds, waiting, config, queue, dispatched⟩ :=
    dispatch_places keepsItems now lacks foreign named (ofRequest?_of_opens opens)
  have taken : (c.dispatch keepsItems now (.payload f)).1 =
      d.commit c.streams.size (s.receive uptake f).stream (s.receive uptake f).frames := by
    rw [dispatched, receive, holds.stream, config]
  refine ⟨(s.receive uptake f).stream, refused, ?_, ?_, effect.kind, started, closed, ?_⟩
  · rw [taken]
    exact placing.trans (grows_commit _ _ _ (by rw [holds.stream]; exact effect.id))
  · rw [taken]
    exact holds.commit effect.id fun before => absurd (before.symm.trans goes) (by decide)
  · rw [taken, waiting_commit, frames, waiting, queue]
    cases c.queue.accepts <;> cases refused <;> simp

end Connection
end StreamMux
