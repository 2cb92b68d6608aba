import StreamMux.Proofs.Connection.Arrival
import StreamMux.Proofs.Echo.Stage

/-!
# The consumer of a channel

The end that opened the channel hands the items that come back to its application, and asks for a
batch more when one was taken (`Stage.poll`). Of the frames that come it keeps the items for its
consumer, and the requests are credit for its own items (`Stage.arrive`).
-/
namespace StreamMux.Echo

open Connection (Takes)

variable {o : Echo} {s t : Exchange} {up down : List Frame} {got : List Item} {ended shut : Bool}
  {near : Near} {far : Far} {queued : List Payload} {delivered : Nat}

/-! ### Asking for the next item -/

/-- What comes of asking for the next item while items can come. -/
inductive Taking.Polls (o : Echo) (s : Exchange) (shut : Bool) : List Payload → Nat → Prop
  | item {t : Exchange} {payload : Payload} {queued : List Payload} {delivered : Nat}
      (eq : s.poll = (.ready (some (.ok payload)), t, [])) (same : t.limiter = s.limiter)
      (next : o.Taking t shut queued (delivered + 1)) : Polls o s shut (payload :: queued) delivered
  | again {t : Exchange} {delivered : Nat} (limited : o.near < maxRequestN)
      (spent : o.near.toNat ≤ delivered) (eq : s.poll = (.pending, t, [.requestN o.id o.near]))
      (same : t.limiter = s.limiter) (next : o.Taking t shut [] 0) : Polls o s shut [] delivered
  | waits {delivered : Nat} (ahead : o.near < maxRequestN → delivered < o.near.toNat)
      (eq : s.poll = (.pending, s, [])) : Polls o s shut [] delivered

theorem Taking.polls (h : o.Taking s shut queued delivered) :
    Taking.Polls o s shut queued delivered := by
  cases queued with
  | cons payload queued =>
    obtain ⟨inbox, popped, left⟩ := Fifo.pop?_of_toList h.inbox
    refine .item (t := { s with
      inbox, consumer := some { batch := o.near, delivered := delivered + 1 } }) ?_ rfl
      ⟨h.id, h.kind, h.closed, h.fragments, h.stopped, left, h.inboxOpen, rfl⟩
    unfold Exchange.poll
    rw [h.consumer]
    dsimp only
    rw [if_neg Bool.false_ne_true, popped]
  | nil =>
    have empty : s.inbox.pop? = none := (Fifo.pop?_eq_none_iff _).mpr h.inbox
    have polled : s.poll = if o.near < maxRequestN ∧ o.near.toNat ≤ delivered
        then (.pending, { s with consumer := some { batch := o.near } },
          [.requestN o.id o.near])
        else (.pending, s, []) := by
      unfold Exchange.poll
      rw [h.consumer]
      dsimp only
      rw [if_neg Bool.false_ne_true, empty]
      dsimp only
      rw [h.inboxOpen, if_neg (by simp), if_neg Bool.false_ne_true, h.id]
    by_cases spent : o.near < maxRequestN ∧ o.near.toNat ≤ delivered
    · rw [if_pos spent] at polled
      exact .again spent.1 spent.2 polled rfl
        ⟨h.id, h.kind, h.closed, h.fragments, h.stopped, h.inbox, h.inboxOpen, rfl⟩
    · rw [if_neg spent] at polled
      exact .waits (fun limited => Nat.lt_of_not_le fun more => spent ⟨limited, more⟩) polled

/-- The stage after the consumer asked for its next item. What its end sends is requests. -/
structure Polled (o : Echo) (s : Exchange) (up down : List Frame) (got : List Item)
    (ended : Bool) (near : Near) (far : Far) : Prop where
  stage : o.Stage s.poll.2.1 (up ++ s.poll.2.2) down (got ++ s.poll.1.taken)
    (ended || s.poll.1.isEnd) near far
  asks : ∀ f ∈ s.poll.2.2, f = .requestN o.id o.near

theorem Polled.item {item : Item} (polled : s.poll = (.ready (some item), t, []))
    (next : o.Stage t up down (got ++ [item]) ended near far) :
    o.Polled s up down got ended near far := by
  refine ⟨?_, by simp [polled]⟩
  simpa [polled, Poll.taken, Poll.isEnd] using next

theorem Polled.again (polled : s.poll = (.pending, t, [.requestN o.id o.near]))
    (next : o.Stage t (up ++ [.requestN o.id o.near]) down got ended near far) :
    o.Polled s up down got ended near far := by
  refine ⟨?_, by simp [polled]⟩
  simpa [polled, Poll.taken, Poll.isEnd] using next

theorem Polled.still (polled : s.poll = (.pending, s, []))
    (h : o.Stage s up down got ended near far) : o.Polled s up down got ended near far := by
  refine ⟨?_, by simp [polled]⟩
  simpa [polled, Poll.taken, Poll.isEnd] using h

theorem Polled.finish (polled : s.poll = (.ready none, t, []))
    (next : o.Stage t up down got true near far) : o.Polled s up down got ended near far := by
  refine ⟨?_, by simp [polled]⟩
  simpa [polled, Poll.taken, Poll.isEnd] using next

/-- The consumer asks for its next item. -/
theorem Stage.poll (v : o.Valid) (h : o.Stage s up down got ended near far) :
    o.Polled s up down got ended near far := by
  have stage := h
  have fresh {shut : Bool} (taking : o.Taking s shut [] 0) : s.poll = (.pending, s, []) := by
    cases taking.polls with
    | again limited spent => exact absurd v.near (Nat.not_lt_of_le spent)
    | waits ahead eq => exact eq
  cases h with
  | unopened taking refuses yields credit unsent nothing untaken goes =>
    exact .still (fresh taking) stage
  | requested taking feeds asks upward which last nothing untaken goes order =>
    exact .still (fresh taking) stage
  | @echoing _ t first held taken queued back kept sent rest delivered used asked granted shut ends
      finished due taking feeds far upward downward which last credit handed goes order =>
    cases taking.polls with
    | item eq same next =>
      refine .item eq (.echoing next (same ▸ feeds) far upward downward which last
        (credit.recount ?_) (Order.handed_snoc handed) goes (by simpa using order))
      rw [List.length_cons]
      omega
    | again limited spent eq same next =>
      exact .again eq (.echoing next (same ▸ feeds) far upward.snoc_asks downward which last
        (credit.again limited spent) handed goes order)
    | waits ahead eq => exact .still eq stage
  | leaving taking far upward downward handed goes order =>
    cases taking.polls with
    | item eq same next =>
      exact .item eq (.leaving next far upward downward (Order.handed_snoc handed) goes
        (by simpa using order))
    | again limited spent eq same next =>
      exact .again eq (.leaving next far upward.snoc_asks downward handed goes order)
    | waits ahead eq => exact .still eq stage
  | closing taking upward downward closes handed goes order =>
    cases taking.polls with
    | item eq same next =>
      exact .item eq (.closing next upward downward closes (Order.handed_snoc handed) goes
        (by simpa using order))
    | again limited spent eq same next =>
      exact .again eq (.closing next upward.snoc_asks downward closes handed goes order)
    | waits ahead eq => exact .still eq stage
  | @served taken queued asked served upward nothing handed goes order =>
    cases queued with
    | cons payload queued =>
      obtain ⟨t, polled, next⟩ := served.poll_item
      exact .item polled (.served next upward nothing (Order.handed_snoc handed) goes
        (by simpa using order))
    | nil =>
      obtain ⟨t, consumer, polled, id, closed, gone, done⟩ :=
        served.poll_last none (by simp) (by simp)
      have all : got = o.items.map .ok := by rw [handed, ← order, List.append_nil]
      exact .finish polled (.finished id closed gone done upward nothing all rfl)
  | finished id closed gone done upward nothing all ends =>
    have polled : s.poll = (.ready none, s, []) := by
      unfold Exchange.poll
      rw [gone]
      dsimp only
      rw [done, if_pos rfl]
    exact .finish polled (.finished id closed gone done upward nothing all rfl)

/-! ### What comes for the consumer's end -/

theorem Taking.isOver (h : o.Taking s shut queued delivered) : s.isOver = false := by
  rw [Exchange.isOver, h.closed]
  rfl

/-- An item comes. -/
theorem Taking.item (h : o.Taking s shut queued delivered) (payload : Payload) :
    ∃ t, Takes s t (.payload (.item o.id payload)) ∧ t.limiter = s.limiter ∧
      o.Taking t shut (queued ++ [payload]) delivered := by
  refine ⟨{ s with fragments := none, inbox := s.inbox.push (.ok payload) },
    .payload rfl h.id.symm fun uptake => ?_, rfl,
    h.id, h.kind, h.closed, rfl, h.stopped, ?_, h.inboxOpen, h.consumer⟩
  · unfold Exchange.receive
    rw [h.closed, h.fragments]
    simp [Exchange.carriesPayload, PayloadFrame.item, Exchange.deliver, h.kind, Exchange.deposit,
      h.inboxOpen]
  · rw [Fifo.toList_push, h.inbox, List.map_append]
    rfl

/-- The other end asks for a batch more. -/
theorem Taking.granted (h : o.Taking s shut queued delivered) (n : UInt32) :
    Takes s (s.grant n.toNat) (.requestN o.id n) ∧
      (s.grant n.toNat).limiter = s.limiter.grant n.toNat ∧
      o.Taking (s.grant n.toNat) shut queued delivered := by
  have granted : s.grant n.toNat = { s with limiter := s.limiter.grant n.toNat } := by
    rw [Exchange.grant, h.kind]
    rfl
  have takes : Takes s (s.grant n.toNat) (.requestN s.id n) := .requestN rfl
  rw [h.id] at takes
  refine ⟨takes, ?_⟩
  rw [granted]
  exact ⟨rfl, h.id, h.kind, h.closed, h.fragments, h.stopped, h.inbox, h.inboxOpen, h.consumer⟩

/-- Nothing more comes back. -/
theorem Taking.completion (h : o.Taking s true queued delivered) :
    ∃ t, Takes s t (.payload (.completion o.id)) ∧ o.order.Served t (queued.map .ok) := by
  refine ⟨s.endInbox.close Directions.inboundOnly, .payload rfl h.id.symm fun uptake => ?_,
    h.id, ?_, h.inbox, rfl, _, h.consumer, rfl⟩
  · unfold Exchange.receive
    rw [h.closed, h.fragments]
    simp [Exchange.carriesPayload, PayloadFrame.completion, FrameType.opensStream,
      Exchange.completeInbound, h.kind, h.fragments]
  · rw [Exchange.close, Exchange.endInbox, h.closed]
    rfl

theorem Feeds.grant {l : Limiter} {asked used : Nat} {due : Bool} {rest : List Payload}
    (v : o.Valid) (h : o.Feeds l (asked + 1) used due near rest shut) :
    o.Feeds (l.grant o.far.toNat) asked used due near rest shut := by
  cases h with
  | sending refuses yields credit => exact .sending refuses yields (credit.grant v.far v.farBound).2
  | silent => exact .silent

/-- The next frame for the consumer's end comes: the stream is still open, and takes it. -/
theorem Stage.arrive {f : Frame} (v : o.Valid) (h : o.Stage s up (f :: down) got ended near far) :
    s.isOver = false ∧ ∃ t, Takes s t f ∧ o.Stage t up down got ended near far := by
  cases h with
  | unopened taking refuses yields credit unsent nothing untaken goes => contradiction
  | requested taking feeds asks upward which last nothing untaken goes order => contradiction
  | echoing taking feeds far upward downward which last credit handed goes order =>
    refine ⟨taking.isOver, ?_⟩
    cases downward with
    | item payload rest =>
      obtain ⟨t, takes, same, next⟩ := taking.item payload
      refine ⟨t, takes, .echoing next (same ▸ feeds) far upward rest which last
        (credit.recount ?_) handed goes (by simpa using order)⟩
      rw [List.length_append, List.length_singleton, List.length_cons]
      omega
    | asks rest =>
      obtain ⟨takes, same, next⟩ := taking.granted o.far
      exact ⟨_, takes, .echoing next (same ▸ feeds.grant v) far upward rest which last credit handed
        goes order⟩
  | leaving taking far upward downward handed goes order =>
    refine ⟨taking.isOver, ?_⟩
    cases downward with
    | item payload rest =>
      obtain ⟨t, takes, same, next⟩ := taking.item payload
      exact ⟨t, takes, .leaving next far upward rest handed goes (by simpa using order)⟩
    | asks rest =>
      obtain ⟨takes, same, next⟩ := taking.granted o.far
      exact ⟨_, takes, .leaving next far upward rest handed goes order⟩
  | @closing taken queued back frames delivered asked granted taking upward downward closes handed
      goes order =>
    refine ⟨taking.isOver, ?_⟩
    cases frames with
    | nil =>
      rw [List.nil_append, List.cons.injEq] at closes
      obtain ⟨rfl, rfl⟩ := closes
      obtain ⟨rfl, _⟩ := downward.empty
      obtain ⟨t, takes, served⟩ := taking.completion
      exact ⟨t, takes, .served served upward rfl handed goes (by simpa using order)⟩
    | cons g frames =>
      rw [List.cons_append, List.cons.injEq] at closes
      obtain ⟨rfl, rfl⟩ := closes
      cases downward with
      | item payload rest =>
        obtain ⟨t, takes, same, next⟩ := taking.item payload
        exact ⟨t, takes, .closing next upward rest rfl handed goes (by simpa using order)⟩
      | asks rest =>
        obtain ⟨takes, same, next⟩ := taking.granted o.far
        exact ⟨_, takes, .closing next upward rest rfl handed goes order⟩
  | served near upward nothing handed goes order => contradiction
  | finished id closed gone done upward nothing all ends => contradiction

end StreamMux.Echo
