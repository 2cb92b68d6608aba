import StreamMux.Proofs.Echo.Consumer

/-!
# What the other end makes of a channel

The request opens a stream, and its payload is the first that goes back (`Stage.request`). The items
that follow are kept for the application (`Stage.hears`), which takes one after the other and sends
it back as soon as there is credit for it (`Stage.passes`, `Stage.sends_back`). When the last was
taken only the end is left to be sent (`Stage.leaves`).
-/
namespace StreamMux.Echo

open Connection (Takes)

variable {o : Echo} {s t : Exchange} {up down : List Frame} {got : List Item} {ended : Bool}
  {near : Near} {first held : Option Payload} {finished due : Bool} {kept : List Payload}
  {used : Nat} {f : Frame}

theorem Feeds.recount {l : Limiter} {asked used used' : Nat} {rest : List Payload} {shut : Bool}
    (h : o.Feeds l asked used due near rest shut) (same : used' = used) :
    o.Feeds l asked used' due near rest shut :=
  same ▸ h

/-! ### What comes -/

/-- The stream that the request of the channel opens. -/
def opened (o : Echo) (silent : Bool) : Exchange where
  id := o.id
  kind := .responderChannel
  closed := { inbound := silent }
  started := true
  limiter := Limiter.new o.near.toNat
  inboxOpen := !silent
  consumer := some { batch := o.far, grantDue := true }

theorem opened_echoing (o : Echo) (silent : Bool) : o.Echoing (o.opened silent) silent [] 0 true :=
  ⟨rfl, rfl, rfl, rfl, rfl, rfl, rfl, rfl, rfl⟩

theorem receive_requestChannel (v : o.Valid) {keepsItems : Payload → Bool} {first : Payload}
    (keeps : keepsItems first = true) (silent : Bool) :
    (Exchange.responder o.id .responderChannel o.near).receive { batch := o.far, keepsItems }
        (.requestChannel o.id o.near first silent) =
      { stream := o.opened silent, started := some first } := by
  unfold Exchange.receive Exchange.responder opened
  cases silent <;>
    simp [StreamKind.initiallyClosed, Exchange.carriesPayload, PayloadFrame.requestChannel,
      FrameType.opensStream, Exchange.deliver, keeps, Order.max_one v.far,
      Exchange.completeInbound, Exchange.endInbox, Exchange.close, Directions.union,
      Directions.inboundOnly]

/-- The request comes, and opens a stream. -/
theorem Stage.request (v : o.Valid) (h : o.Stage s (f :: up) down got ended near .unasked) :
    ∃ payload silent, f = .payload (.requestChannel o.id o.near payload silent) ∧
      o.Stage s up down got ended near (.echoing (o.opened silent) (some payload) none) := by
  cases h with
  | unopened taking refuses yields credit unsent nothing untaken goes => contradiction
  | @requested _ payload rest frames shut ends silent taking feeds asks upward which last nothing
      untaken goes order =>
    rw [List.cons.injEq] at asks
    obtain ⟨rfl, rfl⟩ := asks
    have downward : Lane o.id o.far down [] 0 false := nothing ▸ .nil
    exact ⟨payload, silent, rfl, .echoing taking feeds (o.opened_echoing silent) upward downward
      which (fun finished => ⟨rfl, last finished⟩) (.new v.near v.nearBound)
      (show got = ([] : List Payload).map .ok from untaken) goes (by simpa using order)⟩

theorem Echoing.isOver (h : o.Echoing t finished kept used due) : t.isOver = false := by
  rw [Exchange.isOver, h.closed]
  exact Bool.and_false _

/-- An item comes. -/
theorem Echoing.item (h : o.Echoing t false kept used due) (payload : Payload) :
    ∃ u, Takes t u (.payload (.item o.id payload)) ∧ u.limiter = t.limiter ∧
      o.Echoing u false (kept ++ [payload]) used due := by
  refine ⟨{ t with fragments := none, inbox := t.inbox.push (.ok payload) },
    .payload rfl h.id.symm fun uptake => ?_, rfl,
    h.id, h.kind, h.closed, rfl, h.started, h.stopped, ?_, h.inboxOpen, h.consumer⟩
  · unfold Exchange.receive
    rw [h.closed, h.fragments]
    simp [Exchange.carriesPayload, PayloadFrame.item, Exchange.deliver, h.kind, h.started,
      Exchange.deposit, h.inboxOpen]
  · rw [Fifo.toList_push, h.inbox, List.map_append]
    rfl

/-- No more items come. -/
theorem Echoing.completion (h : o.Echoing t false kept used due) :
    ∃ u, Takes t u (.payload (.completion o.id)) ∧ u.limiter = t.limiter ∧
      o.Echoing u true kept used due := by
  refine ⟨t.endInbox.close Directions.inboundOnly, .payload rfl h.id.symm fun uptake => ?_, rfl,
    h.id, h.kind, ?_, h.fragments, h.started, h.stopped, h.inbox, rfl, h.consumer⟩
  · unfold Exchange.receive
    rw [h.closed, h.fragments]
    simp [Exchange.carriesPayload, PayloadFrame.completion, FrameType.opensStream,
      Exchange.completeInbound, h.kind, h.fragments]
  · rw [Exchange.close, Exchange.endInbox, h.closed]
    rfl

/-- A stream of a channel that is asked for more. -/
theorem takes_requestN (named : t.id = o.id) (kind : t.kind = .responderChannel) (n : UInt32) :
    Takes t { t with limiter := t.limiter.grant n.toNat } (.requestN o.id n) := by
  rw [← named]
  refine .requestN ?_
  rw [Exchange.grant, kind]
  rfl

/-- A frame comes while items are sent back. -/
theorem Stage.hears (v : o.Valid)
    (h : o.Stage s (f :: up) down got ended near (.echoing t first held)) :
    t.isOver = false ∧ ∃ u, Takes t u f ∧ u.id = o.id ∧
      o.Stage s up down got ended near (.echoing u first held) := by
  cases h with
  | @echoing _ _ _ _ taken queued back kept sent rest delivered used asked granted shut ends
      finished due taking feeds far upward downward which last credit handed goes order =>
    refine ⟨far.isOver, ?_⟩
    cases upward with
    | item payload upward =>
      obtain rfl : finished = false := Bool.eq_false_iff.mpr fun finished => by
        simpa using (last finished).1
      obtain ⟨u, takes, same, next⟩ := far.item payload
      refine ⟨u, takes, next.id, .echoing taking (feeds.recount ?_) next upward downward which
        (by simp) (same ▸ credit) handed goes (by simpa using order)⟩
      rw [List.length_append, List.length_singleton, List.length_cons]
      omega
    | last upward =>
      obtain rfl : finished = false := Bool.eq_false_iff.mpr fun finished => by
        simpa using (last finished).2
      obtain ⟨u, takes, same, next⟩ := far.completion
      exact ⟨u, takes, next.id, .echoing taking feeds next upward downward which (by simp)
        (same ▸ credit) handed goes order⟩
    | asks upward =>
      have next : o.Echoing { t with limiter := t.limiter.grant o.near.toNat } finished kept used
          due :=
        ⟨far.id, far.kind, far.closed, far.fragments, far.started, far.stopped, far.inbox,
          far.inboxOpen, far.consumer⟩
      exact ⟨_, takes_requestN far.id far.kind o.near, far.id,
        .echoing taking feeds next upward downward which last (credit.grant v.near v.nearBound).2
          handed goes order⟩

/-- While items are sent back the stream goes on. -/
theorem Stage.returns (h : o.Stage s up down got ended near (.echoing t first held)) :
    ∃ finished kept used due, o.Echoing t finished kept used due := by
  cases h with
  | echoing taking feeds far upward downward which last credit handed goes order =>
    exact ⟨_, _, _, _, far⟩

theorem Leaving.isOver (h : o.Leaving t) : t.isOver = false := by
  rw [Exchange.isOver, h.closed]
  rfl

theorem Stage.parting (h : o.Stage s up down got ended near (.leaving t)) : o.Leaving t := by
  cases h with
  | leaving taking far upward downward handed goes order => exact far

/-- A frame comes when all items were taken. -/
theorem Stage.hears_leaving (h : o.Stage s (f :: up) down got ended near (.leaving t)) :
    t.isOver = false ∧ ∃ u, Takes t u f ∧ u.id = o.id ∧
      o.Stage s up down got ended near (.leaving u) := by
  cases h with
  | leaving taking far upward downward handed goes order =>
    obtain ⟨rfl, _, rfl, fewer⟩ := upward.cons
    exact ⟨far.isOver, _, takes_requestN far.id far.kind o.near, far.id,
      .leaving taking ⟨far.id, far.kind, far.closed, far.stopped, far.consumer⟩ fewer downward
        handed goes order⟩

/-- What comes when the end was sent is too late. -/
theorem Stage.late (h : o.Stage s (f :: up) down got ended near .finished) :
    f = .requestN o.id o.near ∧ o.Stage s up down got ended near .finished := by
  cases h with
  | closing taking upward downward closes handed goes order =>
    obtain ⟨same, _, rfl, fewer⟩ := upward.cons
    exact ⟨same, .closing taking fewer downward closes handed goes order⟩
  | served served upward nothing handed goes order =>
    obtain ⟨same, _, rfl, fewer⟩ := upward.cons
    exact ⟨same, .served served fewer nothing handed goes order⟩
  | finished id closed gone done upward nothing all ends =>
    obtain ⟨same, _, rfl, fewer⟩ := upward.cons
    exact ⟨same, .finished id closed gone done fewer nothing all ends⟩

/-! ### What the application takes -/

/-- What comes of asking for the next item that is to go back. -/
inductive Echoing.Polls (o : Echo) (t : Exchange) (finished : Bool) :
    List Payload → Nat → Bool → Prop
  | item {u : Exchange} {payload : Payload} {kept : List Payload} {used : Nat} {due : Bool}
      (eq : t.poll = (.ready (some (.ok payload)), u, [])) (same : u.limiter = t.limiter)
      (next : o.Echoing u finished kept (used + 1) due) :
      Polls o t finished (payload :: kept) used due
  | first {u : Exchange} {used : Nat} (eq : t.poll = (.pending, u, [.requestN o.id o.far]))
      (same : u.limiter = t.limiter) (next : o.Echoing u finished [] used false) :
      Polls o t finished [] used true
  | again {u : Exchange} {used : Nat} (limited : o.far < maxRequestN) (spent : o.far.toNat ≤ used)
      (eq : t.poll = (.pending, u, [.requestN o.id o.far])) (same : u.limiter = t.limiter)
      (next : o.Echoing u finished [] 0 false) : Polls o t finished [] used false
  | waits {used : Nat} (goes : finished = false) (ahead : o.far < maxRequestN → used < o.far.toNat)
      (eq : t.poll = (.pending, t, [])) : Polls o t finished [] used false
  | finish {u w : Exchange} {used : Nat} {due : Bool} (done : finished = true)
      (eq : t.poll = (.ready none, u, [])) (named : u.id = o.id)
      (dropped : u.dropConsumer = (w, [])) (next : o.Leaving w) : Polls o t finished [] used due

theorem Echoing.polls (h : o.Echoing t finished kept used due) :
    Echoing.Polls o t finished kept used due := by
  cases kept with
  | cons payload kept =>
    obtain ⟨inbox, popped, left⟩ := Fifo.pop?_of_toList h.inbox
    let taker : Consumer := { batch := o.far, delivered := used + 1, grantDue := due }
    refine .item (u := { t with inbox, consumer := some taker }) ?_ rfl
      ⟨h.id, h.kind, h.closed, h.fragments, h.started, h.stopped, left, h.inboxOpen, rfl⟩
    unfold Exchange.poll
    rw [h.consumer]
    dsimp only
    rw [if_neg Bool.false_ne_true, popped]
  | nil =>
    have empty : t.inbox.pop? = none := (Fifo.pop?_eq_none_iff _).mpr h.inbox
    have later (consumer : Consumer) (used : Nat)
        (takes : consumer = { batch := o.far, delivered := used }) :
        o.Echoing { t with consumer := some consumer } finished [] used false :=
      ⟨h.id, h.kind, h.closed, h.fragments, h.started, h.stopped, h.inbox, h.inboxOpen, by
        rw [takes]⟩
    cases finished with
    | true =>
      let taker : Consumer :=
        { batch := o.far, delivered := used, grantDue := due, finished := true }
      refine .finish (u := { t with consumer := some taker })
        (w := { t with consumer := none }) rfl ?_ h.id rfl
        ⟨h.id, h.kind, h.closed, h.stopped, rfl⟩
      unfold Exchange.poll
      rw [h.consumer]
      dsimp only
      rw [if_neg Bool.false_ne_true, empty]
      dsimp only
      rw [h.inboxOpen, if_pos (by rfl)]
    | false =>
      have polled : t.poll = if due = true
          then (.pending, { t with consumer := some { batch := o.far, delivered := used } },
            [.requestN o.id o.far])
          else if o.far < maxRequestN ∧ o.far.toNat ≤ used
          then (.pending, { t with consumer := some { batch := o.far, grantDue := due } },
            [.requestN o.id o.far])
          else (.pending, t, []) := by
        unfold Exchange.poll
        rw [h.consumer]
        dsimp only
        rw [if_neg Bool.false_ne_true, empty]
        dsimp only
        rw [h.inboxOpen, if_neg (by simp), h.id]
      cases due with
      | true =>
        rw [if_pos rfl] at polled
        exact .first polled rfl (later _ used rfl)
      | false =>
        rw [if_neg Bool.false_ne_true] at polled
        by_cases spent : o.far < maxRequestN ∧ o.far.toNat ≤ used
        · rw [if_pos spent] at polled
          exact .again spent.1 spent.2 polled rfl (later _ 0 rfl)
        · rw [if_neg spent] at polled
          exact .waits rfl (fun limited => Nat.lt_of_not_le fun more => spent ⟨limited, more⟩)
            polled

/-- What the stage is after the application asked for the next item. -/
inductive Passed (o : Echo) (s t : Exchange) (up down : List Frame) (got : List Item)
    (ended : Bool) (near : Near) : Prop
  | item {u : Exchange} {payload : Payload} (eq : t.poll = (.ready (some (.ok payload)), u, []))
      (next : o.Stage s up down got ended near (.echoing u none (some payload)))
  | asks {u : Exchange} (eq : t.poll = (.pending, u, [.requestN o.id o.far]))
      (next : o.Stage s up (down ++ [.requestN o.id o.far]) got ended near (.echoing u none none))
  | waits (eq : t.poll = (.pending, t, []))
  | finish {u w : Exchange} (eq : t.poll = (.ready none, u, []))
      (dropped : u.dropConsumer = (w, []))
      (next : o.Stage s up down got ended near (.leaving w))

theorem Feeds.asks_first {l : Limiter} {asked used : Nat} {rest : List Payload} {shut : Bool}
    (h : o.Feeds l asked used true near rest shut) :
    o.Feeds l (asked + 1) used false near rest shut := by
  cases h with
  | sending refuses yields credit => exact .sending refuses yields credit.first
  | silent => exact .silent

theorem Feeds.asks_again {l : Limiter} {asked kept taken : Nat} {rest : List Payload} {shut : Bool}
    (h : o.Feeds l asked (kept + taken) false near rest shut) (limited : o.far < maxRequestN)
    (spent : o.far.toNat ≤ taken) : o.Feeds l (asked + 1) (kept + 0) false near rest shut := by
  cases h with
  | sending refuses yields credit => exact .sending refuses yields (credit.again limited spent)
  | silent => exact .silent

/-- An end that sends nothing more has nothing left. -/
theorem Feeds.nothing_left {l : Limiter} {asked used : Nat} {rest : List Payload}
    (h : o.Feeds l asked used due near rest true) : near = .silent ∧ rest = [] := by
  cases h with
  | silent => exact ⟨rfl, rfl⟩

/-- The application asks for the next item, and does not hold one. -/
theorem Stage.passes (h : o.Stage s up down got ended near (.echoing t none none)) :
    o.Passed s t up down got ended near := by
  cases h with
  | @echoing _ _ _ _ taken queued back kept sent rest delivered used asked granted shut ends
      finished due taking feeds far upward downward which last credit handed goes order =>
    cases far.polls with
    | item eq same next =>
      refine .item eq (.echoing taking (feeds.recount ?_) next upward downward which last
        (same ▸ credit) handed goes (by simpa using order))
      rw [List.length_cons]
      omega
    | first eq same next =>
      exact .asks eq (.echoing taking feeds.asks_first next upward downward.snoc_asks which last
        (same ▸ credit) handed goes order)
    | again limited spent eq same next =>
      exact .asks eq (.echoing taking (feeds.asks_again limited spent) next upward
        downward.snoc_asks which last (same ▸ credit) handed goes order)
    | waits goes ahead eq => exact .waits eq
    | finish done eq named dropped next =>
      subst done
      obtain ⟨rfl, rfl⟩ := last rfl
      obtain rfl : shut = true := which
      obtain ⟨rfl, rfl⟩ := feeds.nothing_left
      exact .finish eq dropped
        (.leaving taking next upward downward handed goes (by simpa using order))

/-- The first payload is the first to go back. -/
theorem Stage.takes_first {payload : Payload}
    (h : o.Stage s up down got ended near (.echoing t (some payload) none)) :
    o.Stage s up down got ended near (.echoing t none (some payload)) := by
  cases h with
  | echoing taking feeds far upward downward which last credit handed goes order =>
    exact .echoing taking feeds far upward downward which last credit handed goes
      (by simpa using order)

/-! ### What goes back -/

theorem Echoing.limited (h : o.Echoing t finished kept used due) (limiter : Limiter) :
    o.Echoing { t with limiter } finished kept used due :=
  ⟨h.id, h.kind, h.closed, h.fragments, h.started, h.stopped, h.inbox, h.inboxOpen, h.consumer⟩

/-- The item that is held goes back, or waits for credit. -/
theorem Stage.sends_back {payload : Payload}
    (h : o.Stage s up down got ended near (.echoing t first (some payload))) :
    (∃ u : Exchange, u.id = o.id ∧ t.offer payload = (.waiting, u, []) ∧
      o.Stage s up down got ended near (.echoing u first (some payload))) ∨
    ∃ u : Exchange, u.id = o.id ∧
      t.offer payload = (.sent, u, [.payload (.item o.id payload)]) ∧ payload ∈ o.items ∧
      o.Stage s up (down ++ [.payload (.item o.id payload)]) got ended near
        (.echoing u first none) := by
  cases h with
  | @echoing _ _ _ _ taken queued back kept sent rest delivered used asked granted shut ends
      finished due taking feeds far upward downward which last credit handed goes order =>
    unfold Exchange.offer
    rcases credit.acquire with ⟨acquired, poor⟩ | ⟨_, limiter, acquired, spent⟩
    · rw [acquired]
      have next := far.limited { t.limiter with parked := true }
      exact .inl ⟨_, next.id, rfl, .echoing taking feeds next upward downward which last poor
        handed goes order⟩
    · rw [acquired]
      have next := far.limited limiter
      refine .inr ⟨_, next.id, ?_, ?_, ?_⟩
      · dsimp only
        rw [far.closed, far.id, if_neg Bool.false_ne_true]
      · rw [← order]
        simp
      · refine .echoing taking feeds next upward (downward.snoc_item rfl payload) which last
          (spent.recount ?_) handed goes (by simpa using order)
        rw [List.length_append, List.length_singleton]
        omega

/-- The end is sent when all items are. -/
theorem Stage.leaves (h : o.Stage s up down got ended near (.leaving t)) :
    t.complete.1.id = o.id ∧ t.complete.1.isOver = true ∧
      t.complete.2 = [.payload (.completion o.id)] ∧
      o.Stage s up (down ++ [.payload (.completion o.id)]) got ended near .finished := by
  cases h with
  | leaving taking far upward downward handed goes order =>
    unfold Exchange.complete
    rw [far.closed, far.id]
    refine ⟨far.id, ?_, rfl, .closing taking upward downward rfl handed goes order⟩
    rw [Exchange.isOver, Exchange.close, far.closed]
    rfl

end StreamMux.Echo
