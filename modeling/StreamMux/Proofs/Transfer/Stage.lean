import StreamMux.Proofs.Endpoint.Advancing
import StreamMux.Proofs.Frame.Landing

/-!
# A stream of items on its way

A consumer asks for a stream, and the peer's handler yields payloads until it ends. At every moment
the payloads lie in this order: taken by the consumer, in its inbox, on the wire, still with the
handler (`Stage`). The credit that the consumer granted is accounted for: it is left with the
peer, on the wire, or spent on items that were not yet asked for again (`Granted`).
-/
namespace StreamMux

/-- What a consumer is to get of a stream: its payloads, and at the end the failure as it is
relayed. -/
def delivery (payloads : List Payload) (failure : Option Failure) : List Item :=
  payloads.map .ok ++ (failure.map fun f => .error f.relayed).toList

/-- A stream that is asked for, and what the handler of the peer yields for it. -/
structure Order where
  id : UInt32
  batch : UInt32
  request : Payload
  payloads : List Payload
  failure : Option Failure

namespace Order

/-- The frame that ends the stream. -/
def farewell (o : Order) : Frame :=
  match o.failure with
  | none => .payload (.completion o.id)
  | some e => e.streamFrame o.id

/-- What the consumer gets at the end. -/
def final (o : Order) : List Item := (o.failure.map fun f => .error f.relayed).toList

/-- All that the consumer is to get. -/
def items (o : Order) : List Item := delivery o.payloads o.failure

/-- All frames of the stream can be written and read. -/
structure Valid (o : Order) : Prop where
  stream : IsStreamId o.id
  positive : 0 < o.batch.toNat
  bound : o.batch ≤ maxRequestN
  request : o.request.Fits
  payloads : ∀ payload ∈ o.payloads, payload.Fits

theorem Valid.nonzero {o : Order} (v : o.Valid) : o.id ≠ 0 := by
  have stream := (isStreamId_iff o.id).mp v.stream
  exact fun zero => stream.2 (stream.1.trans zero)

/-- No batch is smaller than one item. -/
theorem max_one {batch : UInt32} (positive : 0 < batch.toNat) : max batch 1 = batch := by
  change (if batch ≤ 1 then 1 else batch) = batch
  split
  next small =>
    have small : batch.toNat ≤ 1 := UInt32.le_iff_toNat_le.mp small
    exact UInt32.toNat_inj.mp (show 1 = batch.toNat by omega)
  · rfl

/-- The end that asked, while items can come. -/
structure Awaiting (o : Order) (s : Exchange) (queued : List Payload) (delivered : Nat) :
    Prop where
  id : s.id = o.id
  kind : s.kind = .requesterStream
  closed : s.closed = Directions.outboundOnly
  fragments : s.fragments = none
  inbox : s.inbox.toList = queued.map .ok
  inboxOpen : s.inboxOpen = true
  consumer : s.consumer = some { batch := o.batch, delivered }

/-- The end that asked, when nothing more comes. -/
structure Served (o : Order) (s : Exchange) (queued : List Item) : Prop where
  id : s.id = o.id
  closed : s.closed = Directions.both
  inbox : s.inbox.toList = queued
  inboxOpen : s.inboxOpen = false
  consumer : ∃ consumer, s.consumer = some consumer ∧ consumer.finished = false

/-- The end that answers, as long as it has something to send. -/
structure Answering (o : Order) (t : Exchange) : Prop where
  id : t.id = o.id
  kind : t.kind = .responderStream
  closed : t.closed = Directions.inboundOnly
  stopped : t.stopped = false
  consumer : t.consumer = none

/-- Of the credit that was granted so much is used, and the rest is left. -/
structure Granted (o : Order) (l : Limiter) (used : Nat) : Prop where
  goes : l.cancelled = false
  unlimited : o.batch = maxRequestN → l.unbounded = true
  counted : o.batch ≠ maxRequestN → l.unbounded = false ∧ l.credit + used = o.batch.toNat
  /-- Nobody waits for credit that is there. -/
  asleep : l.parked = true → l.isDecided = false

/-- What the peer makes of the order. -/
inductive Far where
  /-- The request has not come yet. -/
  | unasked
  | sending (t : Exchange) (p : Producer) (held : Option Payload)
  | finished

/-- Where the payloads are, and what is on the wire in both directions. -/
inductive Stage (o : Order) (s : Exchange) (up down : List Frame) (got : List Item)
    (ended : Bool) : Far → Prop
  | asked (near : o.Awaiting s [] 0)
      (asks : up = [.payload (.requestStream o.id o.batch o.request)]) (nothing : down = [])
      (none : got = []) (goes : ended = false) : Stage o s up down got ended .unasked
  | flowing {t : Exchange} {p : Producer} {held : Option Payload}
      {taken queued sent left : List Payload} {delivered grants : Nat}
      (near : o.Awaiting s queued delivered) (far : o.Answering t)
      (asks : up = List.replicate grants (.requestN o.id o.batch))
      (items : down = sent.map fun payload => .payload (.item o.id payload))
      (handed : got = taken.map .ok) (goes : ended = false)
      (yields : p.Yields left o.failure)
      (order : taken ++ queued ++ sent ++ held.toList ++ left = o.payloads)
      (credit : o.Granted t.limiter
        (o.batch.toNat * grants + sent.length + queued.length + delivered)) :
      Stage o s up down got ended (.sending t p held)
  | closing {taken queued sent : List Payload} {delivered grants : Nat} {last : Frame}
      (near : o.Awaiting s queued delivered)
      (asks : up = List.replicate grants (.requestN o.id o.batch))
      (landed : o.farewell.landed = some last)
      (items : down = (sent.map fun payload => .payload (.item o.id payload)) ++ [last])
      (handed : got = taken.map .ok) (goes : ended = false)
      (order : taken ++ queued ++ sent = o.payloads) : Stage o s up down got ended .finished
  | served {taken queued : List Payload} {grants : Nat}
      (near : o.Served s (queued.map .ok ++ o.final))
      (asks : up = List.replicate grants (.requestN o.id o.batch)) (nothing : down = [])
      (handed : got = taken.map .ok) (goes : ended = false)
      (order : taken ++ queued = o.payloads) : Stage o s up down got ended .finished
  | finished {grants : Nat} {consumer : Consumer} (id : s.id = o.id)
      (closed : s.closed = Directions.both) (gone : s.consumer = some consumer)
      (done : consumer.finished = true)
      (asks : up = List.replicate grants (.requestN o.id o.batch)) (nothing : down = [])
      (all : got = o.items) (ends : o.failure = none → ended = true) :
      Stage o s up down got ended .finished

end Order

theorem Fifo.pop?_of_toList {α : Type} {q : Fifo α} {a : α} {l : List α} (h : q.toList = a :: l) :
    ∃ r, q.pop? = some (a, r) ∧ r.toList = l := by
  cases hp : q.pop? with
  | none => simp [(Fifo.pop?_eq_none_iff q).mp hp] at h
  | some taken =>
    obtain ⟨b, r⟩ := taken
    rw [Fifo.pop?_eq_some hp, List.cons.injEq] at h
    obtain ⟨rfl, rfl⟩ := h
    exact ⟨r, rfl, rfl⟩

namespace Order

open Connection (Takes)

variable {o : Order} {s t : Exchange} {up down : List Frame} {got : List Item} {ended : Bool}
  {far : Far}

/-! ### The consumer -/

theorem Awaiting.poll_item {payload : Payload} {queued : List Payload} {delivered : Nat}
    (h : o.Awaiting s (payload :: queued) delivered) :
    ∃ t, s.poll = (.ready (some (.ok payload)), t, []) ∧ o.Awaiting t queued (delivered + 1) := by
  obtain ⟨inbox, popped, left⟩ := Fifo.pop?_of_toList h.inbox
  unfold Exchange.poll
  rw [h.consumer]
  dsimp only
  rw [if_neg Bool.false_ne_true, popped]
  exact ⟨_, rfl, h.id, h.kind, h.closed, h.fragments, left, h.inboxOpen, rfl⟩

theorem Awaiting.poll_empty {delivered : Nat} (h : o.Awaiting s [] delivered) :
    s.poll = if o.batch < maxRequestN ∧ o.batch.toNat ≤ delivered
      then (.pending, { s with consumer := some { batch := o.batch } },
        [.requestN o.id o.batch])
      else (.pending, s, []) := by
  have popped : s.inbox.pop? = none := (Fifo.pop?_eq_none_iff _).mpr h.inbox
  unfold Exchange.poll
  rw [h.consumer]
  dsimp only
  rw [if_neg Bool.false_ne_true, popped]
  dsimp only
  rw [h.inboxOpen, if_neg (by simp), if_neg Bool.false_ne_true, h.id]

theorem Awaiting.asked_again {delivered : Nat} (h : o.Awaiting s [] delivered) :
    o.Awaiting { s with consumer := some { batch := o.batch } } [] 0 :=
  ⟨h.id, h.kind, h.closed, h.fragments, h.inbox, h.inboxOpen, rfl⟩

/-- The end of the stream is nothing to the consumer, or a failure. -/
theorem final_cases (o : Order) : (o.failure = none ∧ o.final = []) ∨
    ∃ e f, o.failure = some e ∧ o.final = [.error f] := by
  unfold final
  cases o.failure with
  | none => exact .inl ⟨rfl, rfl⟩
  | some e => exact .inr ⟨e, _, rfl, rfl⟩

theorem Served.poll_item {payload : Payload} {queued : List Item}
    (h : o.Served s (.ok payload :: queued)) :
    ∃ t, s.poll = (.ready (some (.ok payload)), t, []) ∧ o.Served t queued := by
  obtain ⟨consumer, attached, goes⟩ := h.consumer
  obtain ⟨inbox, popped, left⟩ := Fifo.pop?_of_toList h.inbox
  unfold Exchange.poll
  rw [attached]
  dsimp only
  rw [goes, if_neg Bool.false_ne_true, popped]
  exact ⟨_, rfl, h.id, h.closed, left, h.inboxOpen, _, rfl, rfl⟩

/-- The last thing that is taken: the end, or the failure. -/
theorem Served.poll_last {queued : List Item} (h : o.Served s queued) (item : Option Item)
    (last : queued = item.toList) (failed : ∀ i ∈ item, ∃ f, i = .error f) :
    ∃ t consumer, s.poll = (.ready item, t, []) ∧ t.id = o.id ∧ t.closed = Directions.both ∧
      t.consumer = some consumer ∧ consumer.finished = true := by
  obtain ⟨consumer, attached, goes⟩ := h.consumer
  unfold Exchange.poll
  rw [attached]
  dsimp only
  rw [goes, if_neg Bool.false_ne_true]
  cases item with
  | none =>
    have popped : s.inbox.pop? = none := (Fifo.pop?_eq_none_iff _).mpr (h.inbox.trans last)
    rw [popped]
    dsimp only
    rw [h.inboxOpen, if_pos (by rfl)]
    exact ⟨_, _, rfl, h.id, h.closed, rfl, rfl⟩
  | some i =>
    obtain ⟨f, rfl⟩ := failed i rfl
    obtain ⟨inbox, popped, _⟩ := Fifo.pop?_of_toList (h.inbox.trans last)
    rw [popped]
    exact ⟨_, _, rfl, h.id, h.closed, rfl, rfl⟩

theorem replicate_snoc {α : Type} {l : List α} {n : Nat} {a : α} (h : l = List.replicate n a) :
    l ++ [a] = List.replicate (n + 1) a := by
  rw [h, List.replicate_succ']

/-- The consumer has used up what it asked for, and asks again: the credit is on its way. -/
theorem Granted.asked_again {l : Limiter} {grants sent delivered : Nat}
    (h : o.Granted l (o.batch.toNat * grants + sent + 0 + delivered))
    (spent : o.batch.toNat ≤ delivered) :
    o.Granted l (o.batch.toNat * (grants + 1) + sent + 0 + 0) where
  goes := h.goes
  unlimited := h.unlimited
  counted limited := by
    obtain ⟨bounded, eq⟩ := h.counted limited
    refine ⟨bounded, ?_⟩
    rw [Nat.mul_succ]
    omega
  asleep := h.asleep

/-- An item goes from the inbox to the consumer. -/
theorem Granted.taken {l : Limiter} {sent queued delivered grants : Nat}
    (h : o.Granted l (o.batch.toNat * grants + sent + (queued + 1) + delivered)) :
    o.Granted l (o.batch.toNat * grants + sent + queued + (delivered + 1)) := by
  have same : o.batch.toNat * grants + sent + queued + (delivered + 1) =
      o.batch.toNat * grants + sent + (queued + 1) + delivered := by omega
  rw [same]
  exact h

/-- The consumer has the stream that was asked for. -/
theorem Stage.id (h : o.Stage s up down got ended far) : s.id = o.id := by
  cases h with
  | asked near asks nothing none goes => exact near.id
  | flowing near far asks items handed goes yields order credit => exact near.id
  | closing near asks landed items handed goes order => exact near.id
  | served near asks nothing handed goes order => exact near.id
  | finished id closed gone done asks nothing all ends => exact id

/-- The stage after the consumer asked for its next item. What it sends is requests for more. -/
structure Polled (o : Order) (s : Exchange) (up down : List Frame) (got : List Item)
    (ended : Bool) (far : Far) : Prop where
  stage : o.Stage s.poll.2.1 (up ++ s.poll.2.2) down (got ++ s.poll.1.taken)
    (ended || s.poll.1.isEnd) far
  asks : ∀ f ∈ s.poll.2.2, f = .requestN o.id o.batch

theorem Polled.item {item : Item} (polled : s.poll = (.ready (some item), t, []))
    (next : o.Stage t up down (got ++ [item]) ended far) :
    o.Polled s up down got ended far := by
  refine ⟨?_, by simp [polled]⟩
  simpa [polled, Poll.taken, Poll.isEnd] using next

theorem Polled.pending {asks : List Frame} (polled : s.poll = (.pending, t, asks))
    (next : o.Stage t (up ++ asks) down got ended far)
    (again : ∀ f ∈ asks, f = .requestN o.id o.batch) : o.Polled s up down got ended far := by
  refine ⟨?_, by simpa [polled] using again⟩
  simpa [polled, Poll.taken, Poll.isEnd] using next

theorem Polled.finish (polled : s.poll = (.ready none, t, []))
    (next : o.Stage t up down got true far) : o.Polled s up down got ended far := by
  refine ⟨?_, by simp [polled]⟩
  simpa [polled, Poll.taken, Poll.isEnd] using next

theorem Polled.still (polled : s.poll = (.pending, s, []))
    (h : o.Stage s up down got ended far) : o.Polled s up down got ended far :=
  .pending polled (by rw [List.append_nil]; exact h) (by simp)

/-- An item more has been handed out. -/
theorem handed_snoc {taken : List Payload} {payload : Payload} (handed : got = taken.map .ok) :
    got ++ [.ok payload] = (taken ++ [payload]).map .ok := by
  rw [handed, List.map_append]
  rfl

/-- The consumer asks for its next item. -/
theorem Stage.poll (v : o.Valid) (h : o.Stage s up down got ended far) :
    o.Polled s up down got ended far := by
  have stage := h
  cases h with
  | asked near asks nothing none goes =>
    have idle : ¬ (o.batch < maxRequestN ∧ o.batch.toNat ≤ 0) := fun again =>
      Nat.not_lt_of_le again.2 v.positive
    exact .still (by rw [near.poll_empty, if_neg idle]) stage
  | @flowing _ p held taken queued sent left delivered grants near far asks items handed goes
      yields order credit =>
    cases queued with
    | cons payload queued =>
      obtain ⟨t, polled, next⟩ := near.poll_item
      exact .item polled (.flowing next far asks items (handed_snoc handed) goes yields
        (by simpa using order) credit.taken)
    | nil =>
      by_cases again : o.batch < maxRequestN ∧ o.batch.toNat ≤ delivered
      · refine .pending (by rw [near.poll_empty, if_pos again]) ?_ (by simp)
        exact .flowing near.asked_again far (replicate_snoc asks) items handed goes yields order
          (credit.asked_again again.2)
      · exact .still (by rw [near.poll_empty, if_neg again]) stage
  | @closing taken queued sent delivered grants last near asks landed items handed goes order =>
    cases queued with
    | cons payload queued =>
      obtain ⟨t, polled, next⟩ := near.poll_item
      exact .item polled (.closing next asks landed items (handed_snoc handed) goes
        (by simpa using order))
    | nil =>
      by_cases again : o.batch < maxRequestN ∧ o.batch.toNat ≤ delivered
      · refine .pending (by rw [near.poll_empty, if_pos again]) ?_ (by simp)
        exact .closing near.asked_again (replicate_snoc asks) landed items handed goes order
      · exact .still (by rw [near.poll_empty, if_neg again]) stage
  | @served taken queued grants near asks nothing handed goes order =>
    cases queued with
    | cons payload queued =>
      obtain ⟨t, polled, next⟩ := near.poll_item
      exact .item polled (.served next asks nothing (handed_snoc handed) goes
        (by simpa using order))
    | nil =>
      have all : taken = o.payloads := by simpa using order
      rcases o.final_cases with ⟨plain, final⟩ | ⟨e, f, failed, final⟩
      · obtain ⟨t, consumer, polled, id, closed, gone, done⟩ :=
          near.poll_last none (by simp [final]) (by simp)
        have got : got = o.items := by
          rw [Order.items, delivery, ← Order.final, final, handed, all, List.append_nil]
        exact .finish polled (.finished id closed gone done asks nothing got fun _ => rfl)
      · obtain ⟨t, consumer, polled, id, closed, gone, done⟩ :=
          near.poll_last (some (.error f)) (by simp [final]) (by simp)
        have got : got ++ [.error f] = o.items := by
          rw [Order.items, delivery, ← Order.final, final, handed, all]
        refine .item polled (.finished id closed gone done asks nothing got fun plain => ?_)
        rw [failed] at plain
        contradiction
  | finished id closed gone done asks nothing all ends =>
    have polled : s.poll = (.ready none, s, []) := by
      unfold Exchange.poll
      rw [gone]
      dsimp only
      rw [done, if_pos rfl]
    exact .finish polled (.finished id closed gone done asks nothing all fun _ => rfl)

/-! ### What the consumer's end is sent -/

theorem Awaiting.isOver {queued : List Payload} {delivered : Nat}
    (h : o.Awaiting s queued delivered) : s.isOver = false := by
  rw [Exchange.isOver, h.closed]
  rfl

theorem Awaiting.item {queued : List Payload} {delivered : Nat}
    (h : o.Awaiting s queued delivered) (payload : Payload) :
    ∃ t, Takes s t (.payload (.item o.id payload)) ∧
      o.Awaiting t (queued ++ [payload]) delivered := by
  refine ⟨{ s with fragments := none, inbox := s.inbox.push (.ok payload) },
    .payload rfl h.id.symm fun uptake => ?_,
    h.id, h.kind, h.closed, rfl, ?_, h.inboxOpen, h.consumer⟩
  · unfold Exchange.receive
    rw [h.closed, h.fragments]
    simp [Directions.outboundOnly, Exchange.carriesPayload, PayloadFrame.item, Exchange.deliver,
      h.kind, Exchange.deposit, h.inboxOpen]
  · rw [Fifo.toList_push, h.inbox, List.map_append]
    rfl

theorem Awaiting.completion {queued : List Payload} {delivered : Nat}
    (h : o.Awaiting s queued delivered) :
    ∃ t, Takes s t (.payload (.completion o.id)) ∧ o.Served t (queued.map .ok) := by
  refine ⟨s.endInbox.close Directions.inboundOnly, .payload rfl h.id.symm fun uptake => ?_,
    h.id, ?_, h.inbox, rfl, _, h.consumer, rfl⟩
  · unfold Exchange.receive
    rw [h.closed, h.fragments]
    simp [Directions.outboundOnly, Exchange.carriesPayload, PayloadFrame.completion,
      FrameType.opensStream, Exchange.completeInbound, h.kind, h.fragments]
  · rw [Exchange.close, Exchange.endInbox, h.closed]
    rfl

theorem Awaiting.failed {queued : List Payload} {delivered : Nat}
    (h : o.Awaiting s queued delivered) (f : Failure) :
    o.Served (s.fail f) (queued.map .ok ++ [.error f]) := by
  have deposited : ((s.close Directions.both).stop).deposit (.error f) =
      { (s.close Directions.both).stop with inbox := s.inbox.push (.error f) } := by
    have inboxOpen : ((s.close Directions.both).stop).inboxOpen = true := h.inboxOpen
    rw [Exchange.deposit, if_pos inboxOpen]
    rfl
  obtain ⟨answer, settled⟩ := (((s.close Directions.both).stop).failInbox f).settle_eq (.error f)
  rw [Exchange.fail, settled, Exchange.failInbox, deposited]
  refine ⟨h.id, ?_, ?_, rfl, _, h.consumer, rfl⟩
  · exact Directions.union_both _
  · exact (Fifo.toList_push _ _).trans (by rw [h.inbox])

/-- The next frame for the consumer arrives: the stream is still open, and takes it. -/
theorem Stage.arrive {f : Frame} (v : o.Valid) (h : o.Stage s up (f :: down) got ended far) :
    s.isOver = false ∧ ∃ t, Takes s t f ∧ o.Stage t up down got ended far := by
  cases h with
  | asked near asks nothing none goes => contradiction
  | @flowing t p held taken queued sent left delivered grants near far asks items handed goes
      yields order credit =>
    cases sent with
    | nil => contradiction
    | cons payload sent =>
      rw [List.map_cons, List.cons.injEq] at items
      obtain ⟨rfl, rfl⟩ := items
      obtain ⟨u, takes, next⟩ := near.item payload
      refine ⟨near.isOver, u, takes, ?_⟩
      refine .flowing next far asks rfl handed goes yields (by simpa using order) ?_
      have same : o.batch.toNat * grants + sent.length + (queued ++ [payload]).length + delivered =
          o.batch.toNat * grants + (payload :: sent).length + queued.length + delivered := by
        simp only [List.length_append, List.length_cons, List.length_nil]
        omega
      rw [same]
      exact credit
  | @closing taken queued sent delivered grants last near asks landed items handed goes order =>
    cases sent with
    | cons payload sent =>
      rw [List.map_cons, List.cons_append, List.cons.injEq] at items
      obtain ⟨rfl, rfl⟩ := items
      obtain ⟨u, takes, next⟩ := near.item payload
      exact ⟨near.isOver, u, takes,
        .closing next asks landed rfl handed goes (by simpa using order)⟩
    | nil =>
      rw [List.map_nil, List.nil_append, List.cons.injEq] at items
      obtain ⟨rfl, rfl⟩ := items
      have all : taken ++ queued = o.payloads := by simpa using order
      rcases failure : o.failure with _ | e
      · rw [farewell, failure] at landed
        dsimp only at landed
        rw [landed_completion v.stream, Option.some.injEq] at landed
        subst landed
        obtain ⟨u, takes, next⟩ := near.completion
        have served : o.Served u (queued.map .ok ++ o.final) := by
          rw [final, failure]
          simpa using next
        exact ⟨near.isOver, u, takes, .served served asks rfl handed goes all⟩
      · obtain ⟨code, message, came, relayed⟩ := landed_streamFrame v.stream e
        rw [farewell, failure] at landed
        dsimp only at landed
        rw [came, Option.some.injEq] at landed
        subst landed
        have served : o.Served (s.fail (.ofErrorFrame code message))
            (queued.map .ok ++ o.final) := by
          rw [final, failure]
          simpa [relayed] using near.failed (.ofErrorFrame code message)
        refine ⟨near.isOver, s.fail (.ofErrorFrame code message), ?_,
          .served served asks rfl handed goes all⟩
        rw [← near.id]
        exact .error rfl
  | served near asks nothing handed goes order => contradiction
  | finished id closed gone done asks nothing all ends => contradiction

end Order
end StreamMux
