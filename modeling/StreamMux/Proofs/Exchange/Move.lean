import StreamMux.Exchange.Inbound
import StreamMux.Exchange.Outbound

/-!
# What can happen to one stream

Every change of a stream is one of fourteen moves. A move keeps the id and the kind and never opens
a direction or the inbox again (`Extends`); it writes at most one frame, and what it writes
presupposes an open direction (`Writes`). A move of a coherent stream leaves a coherent one
(`Effect`).
-/
namespace StreamMux

/-- Somebody takes the items that come in on streams of this kind. -/
def StreamKind.hasConsumer : StreamKind → Bool
  | .requesterStream | .requesterChannel | .responderChannel => true
  | _ => false

namespace Directions

@[simp] theorem inbound_union (a b : Directions) :
    (a.union b).inbound = (a.inbound || b.inbound) := rfl

@[simp] theorem outbound_union (a b : Directions) :
    (a.union b).outbound = (a.outbound || b.outbound) := rfl

@[simp] theorem inbound_both : both.inbound = true := rfl
@[simp] theorem outbound_both : both.outbound = true := rfl
@[simp] theorem inbound_inboundOnly : inboundOnly.inbound = true := rfl
@[simp] theorem outbound_inboundOnly : inboundOnly.outbound = false := rfl
@[simp] theorem inbound_outboundOnly : outboundOnly.inbound = false := rfl
@[simp] theorem outbound_outboundOnly : outboundOnly.outbound = true := rfl

theorem union_both (d : Directions) : d.union both = both := by simp [union, both]

end Directions

namespace Exchange

/-- One step of a stream. -/
inductive Move where
  | poll
  | dropConsumer
  | abandon
  | receive (uptake : Uptake) (frame : PayloadFrame)
  | grant (n : Nat)
  | cancelByPeer
  | fail (cause : Failure)
  | offer (payload : Payload)
  | complete
  | failLocally (f : Failure)
  | respond (result : Item)
  | openChannel (initial : UInt32) (first : Payload)
  | openSilentChannel (initial : UInt32)
  | failUnopened (f : Failure)

/-- The stream after a move, and the frames that the move writes. -/
def Move.apply (s : Exchange) : Move → Exchange × List Frame
  | poll => s.poll.2
  | dropConsumer => s.dropConsumer
  | abandon => s.abandon
  | receive uptake frame => ((s.receive uptake frame).stream, (s.receive uptake frame).frames)
  | grant n => (s.grant n, [])
  | cancelByPeer => (s.cancelByPeer, [])
  | fail cause => (s.fail cause, [])
  | offer payload => (s.offer payload).2
  | complete => s.complete
  | failLocally f => s.failLocally f
  | respond result => s.respond result
  | openChannel initial first => (s.openChannel initial first).2
  | openSilentChannel initial => s.openSilentChannel initial
  | failUnopened f => (s.failUnopened f, [])

/-- A sequence of this end leaves on the stream, and the peer knows of it. -/
def Sends (s : Exchange) : Prop := s.kind.needsCredit = true ∧ s.initiated = true

/-- A channel of this end that waits for its first item. -/
def Unopened (s : Exchange) : Prop := s.kind = .requesterChannel ∧ s.initiated = false

/-- When a move can be made: only a request-response is abandoned, only the responder of one
answers it, a sequence sends on a stream that the peer knows, and a channel is opened once, by a
task that was not told to stop. -/
def Move.Fits (s : Exchange) : Move → Prop
  | abandon => s.kind = .requesterResponse
  | offer _ | complete | failLocally _ => s.Sends
  | respond _ => s.kind = .responderResponse
  | openChannel .. | openSilentChannel _ => s.Unopened ∧ s.stopped = false
  | failUnopened _ => s.Unopened
  | _ => True

/-- What the parts of a stream say about each other. -/
structure Coherent (s : Exchange) : Prop where
  /-- A consumer that can still be served has its direction open. -/
  inbox : s.inboxOpen = true → s.consumer ≠ none → s.closed.inbound = false
  consumer : s.consumer ≠ none → s.kind.hasConsumer = true
  initiated : s.kind ≠ .requesterChannel → s.initiated = true
  /-- A channel that was not opened lost its way to the peer only by being stopped or failed. -/
  unopened : s.initiated = false → s.closed.outbound = true →
    s.stopped = true ∨ s.closed.inbound = true

/-- The stream is the same one later: no direction was opened again. -/
structure Extends (s t : Exchange) : Prop where
  id : t.id = s.id
  kind : t.kind = s.kind
  inbound : s.closed.inbound = true → t.closed.inbound = true
  outbound : s.closed.outbound = true → t.closed.outbound = true
  started : s.started = true → t.started = true
  initiated : s.initiated = true → t.initiated = true
  stopped : s.stopped = true → t.stopped = true
  inbox : s.inboxOpen = false → t.inboxOpen = false
  consumer : s.closed.inbound = true → s.consumer = none → t.consumer = none

/-- What a move from `s` to `t` writes, with what it presupposes and what it leaves behind. -/
inductive Writes (s t : Exchange) : List Frame → Prop
  | nothing : Writes s t []
  | requestN (n : UInt32) (waits : s.consumer ≠ none) (isOpen : s.inboxOpen = true) :
      Writes s t [.requestN s.id n]
  | cancel (kind : s.kind.hasConsumer = true ∨ s.kind = .requesterResponse)
      (known : s.initiated = true) (isOpen : s.closed.inbound = false)
      (closed : t.closed.inbound = true) (gone : t.consumer = none)
      (finished : s.kind.isRequester = true → t.isOver = true) : Writes s t [.cancel s.id]
  | item (payload : Payload) (sends : s.Sends) (isOpen : s.closed.outbound = false) :
      Writes s t [.payload (.item s.id payload)]
  | completion (sends : s.Sends) (isOpen : s.closed.outbound = false)
      (closed : t.closed.outbound = true) : Writes s t [.payload (.completion s.id)]
  | failure (f : Failure) (sends : s.Sends) (isOpen : s.closed.outbound = false)
      (finished : t.isOver = true) (ended : t.inboxOpen = false) : Writes s t [f.streamFrame s.id]
  | answer (payload : Payload) (kind : s.kind = .responderResponse)
      (isOpen : s.closed.outbound = false) (closed : t.closed.outbound = true) :
      Writes s t [.payload (.lastItem s.id payload)]
  | refusal (f : Failure) (kind : s.kind = .responderResponse)
      (isOpen : s.closed.outbound = false) (closed : t.closed.outbound = true) :
      Writes s t [f.streamFrame s.id]
  | opening (initial : UInt32) (first : Payload) (complete : Bool) (unopened : s.Unopened)
      (isOpen : s.closed.outbound = false) (known : t.initiated = true)
      (closed : complete = true → t.closed.outbound = true) :
      Writes s t [.payload (.requestChannel s.id initial first complete)]

/-- What a move does. -/
structure Effect (s t : Exchange) (frames : List Frame) : Prop extends s.Extends t where
  coherent : t.Coherent
  writes : s.Writes t frames
  /-- Only the opening of a channel tells the peer of a stream. -/
  opens : t.initiated = s.initiated ∨ ∃ initial first complete,
    frames = [.payload (.requestChannel s.id initial first complete)]

/-! ### Parts of moves -/

theorem Extends.refl (s : Exchange) : s.Extends s where
  id := rfl
  kind := rfl
  inbound h := h
  outbound h := h
  started h := h
  initiated h := h
  stopped h := h
  inbox h := h
  consumer _ h := h

theorem Extends.trans {s t u : Exchange} (h : s.Extends t) (h' : t.Extends u) : s.Extends u where
  id := h'.id.trans h.id
  kind := h'.kind.trans h.kind
  inbound hs := h'.inbound (h.inbound hs)
  outbound hs := h'.outbound (h.outbound hs)
  started hs := h'.started (h.started hs)
  initiated hs := h'.initiated (h.initiated hs)
  stopped hs := h'.stopped (h.stopped hs)
  inbox hs := h'.inbox (h.inbox hs)
  consumer hs hc := h'.consumer (h.inbound hs) (h.consumer hs hc)

theorem close_extends (s : Exchange) (sides : Directions) : s.Extends (s.close sides) where
  id := rfl
  kind := rfl
  inbound h := by simp [close, h]
  outbound h := by simp [close, h]
  started h := h
  initiated h := h
  stopped h := h
  inbox h := h
  consumer _ h := h

theorem stop_extends (s : Exchange) : s.Extends s.stop :=
  ⟨rfl, rfl, fun h => h, fun h => h, fun h => h, fun h => h, fun _ => rfl, fun h => h, fun _ h => h⟩

theorem endInbox_extends (s : Exchange) : s.Extends s.endInbox :=
  ⟨rfl, rfl, fun h => h, fun h => h, fun h => h, fun h => h, fun h => h, fun _ => rfl, fun _ h => h⟩

/-! ### Moves in closed form -/

theorem deposit_eq (s : Exchange) (item : Item) : ∃ inbox, s.deposit item = { s with inbox } := by
  unfold deposit
  split
  · exact ⟨_, rfl⟩
  · exact ⟨s.inbox, rfl⟩

theorem failInbox_eq (s : Exchange) (f : Failure) :
    ∃ inbox, s.failInbox f = { s with inbox, inboxOpen := false } := by
  obtain ⟨inbox, h⟩ := s.deposit_eq (.error f)
  exact ⟨inbox, by rw [failInbox, h]; rfl⟩

theorem settle_eq (s : Exchange) (result : Item) :
    ∃ answer, s.settle result = { s with answer } := by
  unfold settle
  split
  · exact ⟨_, rfl⟩
  · exact ⟨s.answer, rfl⟩

theorem fail_eq (s : Exchange) (cause : Failure) :
    ∃ inbox answer, s.fail cause =
      { s with
        closed := Directions.both, stopped := true, limiter := s.limiter.cancel
        inbox, inboxOpen := false, answer } := by
  obtain ⟨inbox, hi⟩ := ((s.close Directions.both).stop).failInbox_eq cause
  obtain ⟨answer, ha⟩ := (((s.close Directions.both).stop).failInbox cause).settle_eq (.error cause)
  exact ⟨inbox, answer, by rw [fail, ha, hi]; simp [close, stop, Directions.union_both]⟩

theorem failUnopened_eq (s : Exchange) (f : Failure) : ∃ inbox, s.failUnopened f =
    { s with closed := Directions.both, inbox, inboxOpen := false } := by
  obtain ⟨inbox, eq⟩ := (s.close Directions.both).failInbox_eq f
  exact ⟨inbox, by rw [failUnopened, eq]; simp [close, Directions.union_both]⟩

theorem failLocally_eq (s : Exchange) (f : Failure) : ∃ inbox, s.failLocally f =
    ({ s with
        closed := Directions.both, stopped := true, limiter := s.limiter.cancel
        inbox, inboxOpen := false },
      if s.closed.outbound then [] else [f.streamFrame s.id]) := by
  obtain ⟨inbox, eq⟩ := ((s.close Directions.both).stop).failInbox_eq f
  exact ⟨inbox, by rw [failLocally, eq]; simp [close, stop, Directions.union_both]⟩

theorem isOver_of_closed {s : Exchange} (h : s.closed = Directions.both) : s.isOver = true := by
  simp [isOver, h]

theorem isOver_iff (s : Exchange) :
    s.isOver = true ↔ s.closed.inbound = true ∧ s.closed.outbound = true := by
  simp [isOver]

/-- What is over stays over. -/
theorem Extends.isOver {s t : Exchange} (h : s.Extends t) (finished : s.isOver = true) :
    t.isOver = true := by
  rw [isOver_iff] at finished ⊢
  exact ⟨h.inbound finished.1, h.outbound finished.2⟩

/-- What a move writes bears the id of its stream. -/
theorem Writes.ids {s t : Exchange} {frames : List Frame} (h : s.Writes t frames) :
    ∀ f ∈ frames, f.id = s.id := by
  cases h <;> simp [Frame.id, PayloadFrame.item, PayloadFrame.completion, PayloadFrame.lastItem,
    PayloadFrame.requestChannel, Failure.streamFrame]

/-- Both directions end together, and the inbox with them. -/
structure Ends (s t : Exchange) : Prop where
  id : t.id = s.id
  kind : t.kind = s.kind
  closed : t.closed = Directions.both
  started : t.started = s.started
  initiated : t.initiated = s.initiated
  stopped : s.stopped = true → t.stopped = true
  inbox : t.inboxOpen = false
  consumer : t.consumer = s.consumer

/-- No direction ends, the peer is told of nothing, and nobody takes items who did not before. -/
structure Stays (s t : Exchange) : Prop where
  id : t.id = s.id
  kind : t.kind = s.kind
  closed : t.closed = s.closed
  started : s.started = true → t.started = true
  initiated : t.initiated = s.initiated
  inbox : t.inboxOpen = s.inboxOpen
  stopped : t.stopped = s.stopped
  consumer : t.consumer ≠ none → s.consumer ≠ none

theorem Ends.effect {s t : Exchange} {frames : List Frame} (h : s.Coherent) (ends : s.Ends t)
    (writes : s.Writes t frames) : s.Effect t frames where
  id := ends.id
  kind := ends.kind
  inbound _ := by simp [ends.closed]
  outbound _ := by simp [ends.closed]
  started hs := by rw [ends.started, hs]
  initiated hs := by rw [ends.initiated, hs]
  stopped := ends.stopped
  inbox _ := ends.inbox
  consumer _ hc := by rw [ends.consumer, hc]
  coherent :=
    { inbox := fun ho => by simp [ends.inbox] at ho
      consumer := fun hc => by rw [ends.kind]; exact h.consumer (ends.consumer ▸ hc)
      initiated := fun hk => by rw [ends.initiated]; exact h.initiated (ends.kind ▸ hk)
      unopened := fun _ _ => .inr (by simp [ends.closed]) }
  writes := writes
  opens := .inl ends.initiated

theorem Stays.effect {s t : Exchange} {frames : List Frame} (h : s.Coherent) (stays : s.Stays t)
    (writes : s.Writes t frames) : s.Effect t frames where
  id := stays.id
  kind := stays.kind
  inbound hs := by rw [stays.closed, hs]
  outbound hs := by rw [stays.closed, hs]
  started := stays.started
  initiated hs := by rw [stays.initiated, hs]
  stopped hs := by rw [stays.stopped, hs]
  inbox hs := by rw [stays.inbox, hs]
  consumer _ hc := by
    cases ht : t.consumer with
    | none => rfl
    | some consumer => exact absurd hc (stays.consumer (by simp [ht]))
  coherent :=
    { inbox := fun ho hc => by
        rw [stays.closed]
        exact h.inbox (stays.inbox ▸ ho) (stays.consumer hc)
      consumer := fun hc => by rw [stays.kind]; exact h.consumer (stays.consumer hc)
      initiated := fun hk => by rw [stays.initiated]; exact h.initiated (stays.kind ▸ hk)
      unopened := fun hi ho => by
        rw [stays.stopped, stays.closed]
        exact h.unopened (stays.initiated ▸ hi) (stays.closed ▸ ho) }
  writes := writes
  opens := .inl stays.initiated

/-- Credit, and what is kept for the application, may change. -/
theorem Stays.keeps (s : Exchange) (fragments : Option Payload) (limiter : Limiter)
    (inbox : Fifo Item) (answer : Answer) : s.Stays { s with fragments, limiter, inbox, answer } :=
  ⟨rfl, rfl, rfl, fun hs => hs, rfl, rfl, rfl, fun hc => hc⟩

/-- The consumer takes from the inbox, or turns away. -/
theorem Stays.takes {s : Exchange} {consumer : Option Consumer}
    (waits : consumer ≠ none → s.consumer ≠ none) (inbox : Fifo Item) :
    s.Stays { s with inbox, consumer } :=
  ⟨rfl, rfl, rfl, fun hs => hs, rfl, rfl, rfl, waits⟩

/-- Nothing at all happens. -/
theorem Effect.stay {s : Exchange} (h : s.Coherent) : s.Effect s [] :=
  Stays.effect h (.keeps s _ _ _ _) .nothing

/-! ### Moves one after the other -/

theorem Writes.mono {s t u : Exchange} {frames : List Frame} (h : s.Writes t frames)
    (later : t.Extends u) : s.Writes u frames := by
  cases h with
  | nothing => exact .nothing
  | requestN n waits isOpen => exact .requestN n waits isOpen
  | cancel kind known isOpen closed gone ended =>
    exact .cancel kind known isOpen (later.inbound closed) (later.consumer closed gone)
      fun requester => later.isOver (ended requester)
  | item payload sends isOpen => exact .item payload sends isOpen
  | completion sends isOpen closed => exact .completion sends isOpen (later.outbound closed)
  | failure f sends isOpen ended inbox =>
    exact .failure f sends isOpen (later.isOver ended) (later.inbox inbox)
  | answer payload kind isOpen closed => exact .answer payload kind isOpen (later.outbound closed)
  | refusal f kind isOpen closed => exact .refusal f kind isOpen (later.outbound closed)
  | opening initial first complete unopened isOpen known closed =>
    exact .opening initial first complete unopened isOpen (later.initiated known)
      fun hc => later.outbound (closed hc)

/-- A move and a silent one after it. -/
theorem Effect.then_silent {s t u : Exchange} {frames : List Frame} (h : s.Effect t frames)
    (h' : t.Effect u []) : s.Effect u frames where
  toExtends := h.toExtends.trans h'.toExtends
  coherent := h'.coherent
  writes := h.writes.mono h'.toExtends
  opens := by
    rcases h'.opens with same | ⟨_, _, _, none⟩
    · rw [same]
      exact h.opens
    · simp at none

/-- What is written after nothing has changed could be written before. -/
theorem Stays.writes {s t u : Exchange} {frames : List Frame} (stays : s.Stays t)
    (h : t.Writes u frames) : s.Writes u frames := by
  have sends : t.Sends → s.Sends := fun ht => ⟨stays.kind ▸ ht.1, stays.initiated ▸ ht.2⟩
  cases h with
  | nothing => exact .nothing
  | requestN n waits isOpen =>
    rw [stays.id]
    exact .requestN n (stays.consumer waits) (stays.inbox ▸ isOpen)
  | cancel kind known isOpen closed gone finished =>
    rw [stays.id]
    exact .cancel (stays.kind ▸ kind) (stays.initiated ▸ known) (stays.closed ▸ isOpen) closed gone
      (stays.kind ▸ finished)
  | item payload hs isOpen =>
    rw [stays.id]
    exact .item payload (sends hs) (stays.closed ▸ isOpen)
  | completion hs isOpen closed =>
    rw [stays.id]
    exact .completion (sends hs) (stays.closed ▸ isOpen) closed
  | failure f hs isOpen finished inbox =>
    rw [stays.id]
    exact .failure f (sends hs) (stays.closed ▸ isOpen) finished inbox
  | answer payload kind isOpen closed =>
    rw [stays.id]
    exact .answer payload (stays.kind ▸ kind) (stays.closed ▸ isOpen) closed
  | refusal f kind isOpen closed =>
    rw [stays.id]
    exact .refusal f (stays.kind ▸ kind) (stays.closed ▸ isOpen) closed
  | opening initial first complete unopened isOpen known closed =>
    rw [stays.id]
    exact .opening initial first complete ⟨stays.kind ▸ unopened.1, stays.initiated ▸ unopened.2⟩
      (stays.closed ▸ isOpen) known closed

/-- Nothing has changed, and a move comes after that. -/
theorem Stays.then_effect {s t u : Exchange} {frames : List Frame} (h : s.Coherent)
    (stays : s.Stays t) (effect : t.Coherent → t.Effect u frames) : s.Effect u frames := by
  have first := Stays.effect h stays .nothing
  have second := effect first.coherent
  exact
    { toExtends := first.toExtends.trans second.toExtends
      coherent := second.coherent
      writes := stays.writes second.writes
      opens := by
        rw [← stays.initiated, ← stays.id]
        exact second.opens }

end Exchange
end StreamMux
