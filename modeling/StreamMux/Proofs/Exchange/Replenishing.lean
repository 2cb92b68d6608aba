import Mathlib.Algebra.GroupWithZero.Nat
import StreamMux.Proofs.Exchange.Ending

/-!
# What a consumer asks for

A consumer asks the peer for items only when it finds its inbox empty: at first where the request
did not ask for any, and then each time it has taken a batch (`Asked`). No other move takes items,
or asks for any but the one that opens a channel (`Opens`); only the peer adds some, and who takes
them stays the same but for a channel that is taken up (`Move.tends`).
-/
namespace StreamMux

/-- How many items the frame asks for. -/
def Frame.asksFor : Frame → Nat
  | .requestN _ n => n.toNat
  | .payload f => if f.type.hasInitialRequest then f.initial.toNat else 0
  | _ => 0

def Frame.isRequestN : Frame → Bool
  | .requestN .. => true
  | _ => false

/-- The frame asks for items: REQUEST_N does, and the request for a stream or a channel. -/
def Frame.isAsking : Frame → Bool
  | .payload f => f.type.hasInitialRequest
  | f => f.isRequestN

/-- An item that is no failure. -/
def isPayload : Item → Bool
  | .ok _ => true
  | .error _ => false

/-- The consumer was given an item. -/
def isDelivery : Poll (Option Item) → Bool
  | .ready (some item) => isPayload item
  | _ => false

theorem asksFor_of_silent {f : Frame} (silent : f.isAsking = false) : f.asksFor = 0 := by
  cases f <;> simp_all [Frame.isAsking, Frame.isRequestN, Frame.asksFor]

theorem sum_asksFor_eq_zero {frames : List Frame} (silent : ∀ f ∈ frames, f.isAsking = false) :
    (frames.map (·.asksFor)).sum = 0 := by
  induction frames with
  | nil => rfl
  | cons f rest ih =>
    rw [List.map_cons, List.sum_cons, asksFor_of_silent (silent f List.mem_cons_self),
      ih fun g member => silent g (List.mem_cons_of_mem _ member)]

namespace Exchange

variable {s t : Exchange}

/-- How many items wait in the inbox. -/
def buffered (s : Exchange) : Nat := s.inbox.toList.countP isPayload

/-! ### Asking for the next item -/

/-- What comes of asking for the next item. -/
inductive Asked (s : Exchange) : Prop
  /-- The end was told of, before or now, or there is nobody to tell. -/
  | finish (consumer : Option Consumer)
      (same : ∀ later, consumer = some later → ∃ former, s.consumer = some former ∧
        later.batch = former.batch ∧ later.delivered = former.delivered ∧
        later.grantDue = former.grantDue)
      (nobody : consumer = none → s.consumer = none)
      (eq : s.poll = (.ready none, { s with consumer }, []))
  | item (taker : Consumer) (payload : Payload) (rest : Fifo Item) (takes : s.consumer = some taker)
      (next : s.inbox.pop? = some (.ok payload, rest))
      (eq : s.poll = (.ready (some (.ok payload)),
        { s with inbox := rest, consumer := some { taker with delivered := taker.delivered + 1 } },
        []))
  | failure (taker : Consumer) (f : Failure) (rest : Fifo Item) (takes : s.consumer = some taker)
      (next : s.inbox.pop? = some (.error f, rest))
      (eq : s.poll = (.ready (some (.error f)),
        { s with inbox := rest, consumer := some { taker with finished := true } }, []))
  /-- Nothing is there, and the items that the consumer starts with were not asked for. -/
  | first (taker : Consumer) (takes : s.consumer = some taker) (empty : s.inbox.toList = [])
      (isOpen : s.inboxOpen = true) (due : taker.grantDue = true)
      (eq : s.poll = (.pending, { s with consumer := some { taker with grantDue := false } },
        [.requestN s.id taker.batch]))
  /-- Nothing is there, and a batch was taken. -/
  | again (taker : Consumer) (takes : s.consumer = some taker) (empty : s.inbox.toList = [])
      (isOpen : s.inboxOpen = true) (asked : taker.grantDue = false)
      (bounded : taker.batch < maxRequestN) (spent : taker.batch.toNat ≤ taker.delivered)
      (eq : s.poll = (.pending, { s with consumer := some { taker with delivered := 0 } },
        [.requestN s.id taker.batch]))
  /-- Nothing is there, but more was asked for, or the peer needs no asking. -/
  | waits (taker : Consumer) (takes : s.consumer = some taker) (empty : s.inbox.toList = [])
      (isOpen : s.inboxOpen = true) (asked : taker.grantDue = false)
      (ahead : taker.batch < maxRequestN → taker.delivered < taker.batch.toNat)
      (eq : s.poll = (.pending, s, []))

theorem poll_asked (s : Exchange) : s.Asked := by
  cases takes : s.consumer with
  | none =>
    refine .finish none (by simp) (fun _ => takes) ?_
    rw [poll, takes]
    cases s
    simp_all
  | some taker =>
    by_cases finished : taker.finished = true
    · refine .finish (some taker) (fun later same => ?_) (by simp) ?_
      · cases same
        exact ⟨taker, takes, rfl, rfl, rfl⟩
      · rw [poll, takes]
        dsimp only
        rw [if_pos finished, ← takes]
    cases next : s.inbox.pop? with
    | some found =>
      obtain ⟨item, rest⟩ := found
      cases item with
      | ok payload =>
        refine .item taker payload rest takes next ?_
        rw [poll, takes]
        dsimp only
        rw [if_neg finished, next]
      | error f =>
        refine .failure taker f rest takes next ?_
        rw [poll, takes]
        dsimp only
        rw [if_neg finished, next]
    | none =>
      have empty := (Fifo.pop?_eq_none_iff _).mp next
      by_cases isOpen : s.inboxOpen = true
      · by_cases due : taker.grantDue = true
        · refine .first taker takes empty isOpen due ?_
          rw [poll, takes]
          dsimp only
          rw [if_neg finished, next]
          simp [isOpen, due]
        · by_cases spent : taker.batch < maxRequestN ∧ taker.batch.toNat ≤ taker.delivered
          · refine .again taker takes empty isOpen (by simpa using due) spent.1 spent.2 ?_
            rw [poll, takes]
            dsimp only
            rw [if_neg finished, next]
            simp [isOpen, due, spent]
          · refine .waits taker takes empty isOpen (by simpa using due) (fun bounded => ?_) ?_
            · exact Nat.lt_of_not_le fun more => spent ⟨bounded, more⟩
            · rw [poll, takes]
              dsimp only
              rw [if_neg finished, next]
              simp [isOpen, due, spent]
      · refine .finish (some { taker with finished := true }) (fun later same => ?_) (by simp) ?_
        · cases same
          exact ⟨taker, takes, rfl, rfl, rfl⟩
        · rw [poll, takes]
          dsimp only
          rw [if_neg finished, next]
          simp [isOpen]

theorem poll_nobody (s : Exchange) (nobody : s.consumer = none) :
    s.poll = (.ready none, s, []) := by
  rw [poll, nobody]

/-- What a consumer is given is taken out of the inbox. -/
theorem poll_buffered (s : Exchange) :
    s.buffered = [s.poll.1].countP isDelivery + s.poll.2.1.buffered := by
  cases s.poll_asked with
  | finish consumer same nobody eq => simp [eq, isDelivery, buffered]
  | item taker payload rest takes next eq =>
    have one : [Poll.ready (some (Except.ok payload : Item))].countP isDelivery = 1 := rfl
    rw [eq, one, buffered, Fifo.pop?_eq_some next, List.countP_cons_of_pos rfl, Nat.add_comm]
    rfl
  | failure taker f rest takes next eq =>
    simp [eq, isDelivery, buffered, Fifo.pop?_eq_some next, isPayload]
  | first taker takes empty isOpen due eq => simp [eq, isDelivery, buffered]
  | again taker takes empty isOpen asked bounded spent eq => simp [eq, isDelivery, buffered]
  | waits taker takes empty isOpen asked ahead eq => simp [eq, isDelivery]

/-! ### The other moves -/

/-- What a move leaves of who takes items, when it is not to ask for the next one; `come` more items
wait then. -/
structure Tends (s t : Exchange) (frames : List Frame) (come : Nat) : Prop where
  /-- A consumer was there before, or takes up a channel and has not asked for anything. -/
  taker : ∀ taker, t.consumer = some taker → s.consumer = some taker ∨
    s.kind = .responderChannel ∧ s.started = false ∧ t.started = true ∧ taker.grantDue = true ∧
      taker.delivered = 0 ∧ 1 ≤ taker.batch.toNat
  silent : ∀ f ∈ frames, f.isRequestN = false
  buffered : t.buffered = s.buffered + come

namespace Tends

variable {frames : List Frame} {come : Nat}

theorem of_same (consumer : t.consumer = s.consumer) (buffered : t.buffered = s.buffered)
    (silent : ∀ f ∈ frames, f.isRequestN = false) : s.Tends t frames 0 :=
  ⟨fun _ takes => .inl (consumer ▸ takes), silent, buffered⟩

theorem of_gone (consumer : t.consumer = none) (buffered : t.buffered = s.buffered)
    (silent : ∀ f ∈ frames, f.isRequestN = false) : s.Tends t frames 0 :=
  ⟨fun _ takes => by simp [consumer] at takes, silent, buffered⟩

end Tends

theorem at_least_one (batch : UInt32) : 1 ≤ (max batch 1).toNat := by
  change 1 ≤ (if batch ≤ 1 then 1 else batch : UInt32).toNat
  split
  · decide
  next more =>
    rw [UInt32.le_iff_toNat_le] at more
    exact Nat.le_of_lt (Nat.lt_of_not_le more)

/-- A failure is no item. -/
theorem buffered_failInbox (s : Exchange) (f : Failure) :
    (s.failInbox f).buffered = s.buffered ∧ (s.failInbox f).consumer = s.consumer := by
  unfold failInbox deposit endInbox buffered
  split
  · simp [isPayload]
  · exact ⟨rfl, rfl⟩

theorem fail_tends (s : Exchange) (cause : Failure) : s.Tends (s.fail cause) [] 0 := by
  obtain ⟨buffered, consumer⟩ := (s.close Directions.both).stop.buffered_failInbox cause
  obtain ⟨answer, settled⟩ :=
    (((s.close Directions.both).stop).failInbox cause).settle_eq (.error cause)
  rw [fail, settled]
  exact .of_same consumer buffered (by simp)

theorem cancelLocally_tends (s : Exchange) (sides : Directions) :
    s.Tends (s.cancelLocally sides).1 (s.cancelLocally sides).2 0 := by
  rw [cancelLocally_eq]
  refine .of_same rfl rfl fun f written => ?_
  dsimp only at written
  split at written
  · rw [List.mem_singleton.mp written]
    rfl
  · contradiction

theorem dropConsumer_tends (s : Exchange) :
    s.dropConsumer.1.consumer = none ∧ s.dropConsumer.1.buffered = s.buffered ∧
      ∀ f ∈ s.dropConsumer.2, f.isRequestN = false := by
  unfold dropConsumer
  split
  next none => exact ⟨none, rfl, by simp⟩
  · dsimp only
    have cancelled (sides : Directions) := cancelLocally_tends { s with consumer := none } sides
    have gone (sides : Directions) :
        ({ s with consumer := none }.cancelLocally sides).1.consumer = none := by
      rw [cancelLocally_eq]
    split
    · exact ⟨rfl, rfl, by simp⟩
    · split
      · exact ⟨gone _, (cancelled _).buffered, (cancelled _).silent⟩
      · exact ⟨gone _, (cancelled _).buffered, (cancelled _).silent⟩

theorem deposit_tends (s : Exchange) (payload : Payload) :
    ∃ come, s.Tends (s.deposit (.ok payload)) [] come := by
  unfold deposit
  split
  · exact ⟨1, fun _ takes => .inl takes, by simp, by simp [buffered, isPayload]⟩
  · exact ⟨0, .of_same rfl rfl (by simp)⟩

theorem completeInbound_keeps (s : Exchange) : s.completeInbound.consumer = s.consumer ∧
    s.completeInbound.started = s.started ∧ s.completeInbound.buffered = s.buffered := by
  unfold completeInbound
  split
  · obtain ⟨answer, settled⟩ := s.settle_eq (.ok Payload.empty)
    rw [settled]
    exact ⟨rfl, rfl, rfl⟩
  · exact ⟨rfl, rfl, rfl⟩
  · exact ⟨rfl, rfl, rfl⟩
  · exact ⟨rfl, rfl, rfl⟩
  · exact ⟨rfl, rfl, rfl⟩

theorem deliver_tends (s : Exchange) (uptake : Uptake) (payload : Payload) :
    ∃ come, s.Tends (s.deliver uptake payload).stream (s.deliver uptake payload).frames come := by
  unfold deliver
  split
  · obtain ⟨answer, settled⟩ := s.settle_eq (.ok payload)
    rw [settled]
    exact ⟨0, .of_same rfl rfl (by simp)⟩
  · exact s.deposit_tends payload
  · exact s.deposit_tends payload
  · split
    · dsimp only
      split
      · exact s.deposit_tends payload
      · exact ⟨0, .of_same rfl rfl (by simp)⟩
    next fresh =>
      dsimp only
      split
      · exact ⟨0, .of_same rfl rfl (by simp)⟩
      next kind =>
        split
        · refine ⟨0, fun taker takes => .inr ?_, by simp, rfl⟩
          cases takes
          exact ⟨kind, by simpa using fresh, rfl, rfl, rfl, at_least_one _⟩
        · obtain ⟨consumer, buffered, silent⟩ := dropConsumer_tends
            { s with started := true, consumer := some _ }
          exact ⟨0, .of_gone consumer buffered silent⟩
      · exact ⟨0, .of_same rfl rfl (by simp)⟩

theorem receive_tends (s : Exchange) (uptake : Uptake) (f : PayloadFrame) :
    ∃ come, s.Tends (s.receive uptake f).stream (s.receive uptake f).frames come := by
  unfold receive
  split
  · exact ⟨0, .of_same rfl rfl (by simp)⟩
  · have whole (payload : Payload) :
        let r : Reception := if s.carriesPayload f
          then { s with fragments := none }.deliver uptake payload else { stream := s }
        ∃ come, s.Tends r.stream r.frames come := by
      dsimp only
      split
      · obtain ⟨come, tends⟩ := deliver_tends { s with fragments := none } uptake payload
        exact ⟨come, tends.taker, tends.silent, tends.buffered⟩
      · exact ⟨0, .of_same rfl rfl (by simp)⟩
    dsimp only
    split
    · exact ⟨0, .of_same rfl rfl (by simp)⟩
    · split
      · obtain ⟨come, tends⟩ := whole _
        refine ⟨come, ?_⟩
        generalize (if s.carriesPayload f then _ else _ : Reception) = r at tends ⊢
        obtain ⟨consumer, started, buffered⟩ := r.stream.completeInbound_keeps
        refine ⟨fun taker takes => ?_, tends.silent, buffered.trans tends.buffered⟩
        rw [started]
        exact tends.taker taker (consumer ▸ takes)
      · exact whole _

/-- A frame that is written unless a direction is closed. -/
theorem silent_unless {f : Frame} (none : f.isRequestN = false) (closed : Bool) :
    ∀ g ∈ (if closed then [] else [f]), g.isRequestN = false := by
  cases closed with
  | true => simp
  | false => simpa using none

/-- No other move than to ask for the next item takes one or asks the peer for more, and only what
the peer sends comes in. -/
theorem Move.tends {m : Move} (asks : m ≠ .poll) :
    ∃ come, s.Tends (m.apply s).1 (m.apply s).2 come ∧
      ((∀ uptake f, m ≠ .receive uptake f) → come = 0) := by
  have still {t : Exchange} {frames : List Frame} (tends : s.Tends t frames 0) :
      ∃ come, s.Tends t frames come ∧ ((∀ uptake f, m ≠ .receive uptake f) → come = 0) :=
    ⟨0, tends, fun _ => rfl⟩
  cases m with
  | poll => contradiction
  | dropConsumer =>
    obtain ⟨consumer, buffered, silent⟩ := s.dropConsumer_tends
    exact still (.of_gone consumer buffered silent)
  | abandon => exact still (.of_same rfl rfl (silent_unless rfl _))
  | receive uptake f =>
    obtain ⟨come, tends⟩ := s.receive_tends uptake f
    exact ⟨come, tends, fun own => absurd rfl (own uptake f)⟩
  | grant n =>
    obtain ⟨limiter, eq⟩ := s.grant_eq n
    rw [apply, eq]
    exact still (.of_same rfl rfl (by simp))
  | cancelByPeer =>
    rw [apply, Exchange.cancelByPeer]
    split
    · exact still (.of_same rfl rfl (by simp))
    · exact still (.of_same rfl rfl (by simp))
    · exact still (.of_same rfl rfl (by simp))
    · obtain ⟨buffered, consumer⟩ := (s.close Directions.both).stop.buffered_failInbox
        (.canceled "stream canceled by requester")
      exact still (.of_same consumer buffered (by simp))
  | fail cause => exact still (s.fail_tends cause)
  | offer payload =>
    obtain ⟨limiter, eq⟩ := s.offer_eq payload
    refine still (.of_same (eq ▸ rfl) (eq ▸ rfl) ?_)
    rw [apply, Exchange.offer]
    split
    · simp
    · simp
    · dsimp only
      split
      · simp
      · simp [Frame.isRequestN]
  | complete => exact still (.of_same rfl rfl (silent_unless rfl _))
  | failLocally f =>
    obtain ⟨buffered, consumer⟩ := (s.close Directions.both).stop.buffered_failInbox f
    exact still (.of_same consumer buffered (silent_unless rfl _))
  | respond result =>
    refine still (.of_same rfl rfl (silent_unless ?_ _))
    cases result with
    | ok payload => rfl
    | error f => rfl
  | openChannel initial first =>
    obtain ⟨initiated, eq⟩ := s.openChannel_eq initial first
    refine still (.of_same (eq ▸ rfl) (eq ▸ rfl) ?_)
    rw [apply, Exchange.openChannel]
    split
    · simp
    · simp [Frame.isRequestN]
  | openSilentChannel initial =>
    obtain ⟨closed, initiated, eq, _⟩ := s.openSilentChannel_eq initial
    refine still (.of_same (eq ▸ rfl) (eq ▸ rfl) ?_)
    rw [apply, Exchange.openSilentChannel]
    split
    · simp
    · simp [Frame.isRequestN]
  | failUnopened f =>
    obtain ⟨buffered, consumer⟩ := (s.close Directions.both).buffered_failInbox f
    exact still (.of_same consumer buffered fun g written => by cases written)

/-! ### Opening -/

/-- What a move asks of the peer, when it is not to ask for the next item: nothing, or what the
request asks for that opens a channel. -/
inductive Opens (s t : Exchange) (frames : List Frame) : Prop
  | silent (same : t.initiated = s.initiated) (silent : ∀ f ∈ frames, f.isAsking = false)
  | channel (f : PayloadFrame) (unknown : s.initiated = false) (known : t.initiated = true)
      (type : f.type = .requestChannel) (eq : frames = [.payload f])

theorem Effect.opening {frames : List Frame} (effect : s.Effect t frames)
    (unasked : ∀ f ∈ frames, f.isRequestN = false) : s.Opens t frames := by
  have silent (quiet : ∀ f ∈ frames, f.isAsking = false) : s.Opens t frames := by
    rcases effect.opens with same | ⟨initial, first, complete, eq⟩
    · exact .silent same quiet
    · have asks := quiet (.payload (.requestChannel s.id initial first complete)) (by simp [eq])
      contradiction
  cases effect.writes with
  | nothing => exact silent (by simp)
  | requestN n waits isOpen =>
    have asks := unasked (.requestN s.id n) (by simp)
    contradiction
  | cancel | item | completion | failure | answer | refusal =>
    refine silent fun f written => ?_
    rw [List.mem_singleton.mp written]
    rfl
  | opening initial first complete unopened isOpen known closed =>
    exact .channel _ unopened.2 known rfl rfl

/-- A stream that the peer knows of is opened no more. -/
theorem Opens.of_known {frames : List Frame} (opens : s.Opens t frames)
    (known : s.initiated = true) :
    t.initiated = true ∧ ∀ f ∈ frames, f.isAsking = false := by
  cases opens with
  | silent same silent => exact ⟨same.trans known, silent⟩
  | channel f unknown =>
    rw [unknown] at known
    contradiction

/-- What the request that opens the stream is still to ask for. -/
def pledged (s : Exchange) (batch : UInt32) : Nat := if s.initiated then 0 else batch.toNat

/-- The request for a channel asks for what was pledged. -/
theorem Opens.pledged {frames : List Frame} {batch : UInt32} (opens : s.Opens t frames)
    (initial : ∀ f, .payload f ∈ frames → f.type.hasInitialRequest = true → f.initial = batch) :
    t.pledged batch + (frames.map (·.asksFor)).sum = s.pledged batch := by
  cases opens with
  | silent same silent =>
    rw [sum_asksFor_eq_zero silent, Exchange.pledged, Exchange.pledged, same, Nat.add_zero]
  | channel f unknown known type eq =>
    have asks := initial f (by simp [eq]) (by rw [type]; rfl)
    simp [eq, Exchange.pledged, known, unknown, Frame.asksFor, type, FrameType.hasInitialRequest,
      asks]

/-- What a consumer starts with: items that the peer is still to be asked for, by the consumer or
by the request for a channel, or that the request for a stream has just asked for. -/
inductive Starts (s : Exchange) (taker : Consumer) (frames : List Frame) : Prop
  | due (known : s.initiated = true) (due : taker.grantDue = true)
      (silent : ∀ f ∈ frames, f.isAsking = false)
  | channel (unknown : s.initiated = false) (asked : taker.grantDue = false) (silent : frames = [])
  | stream (f : PayloadFrame) (known : s.initiated = true) (asked : taker.grantDue = false)
      (type : f.type = .requestStream) (eq : frames = [.payload f])

theorem isRequestN_of_silent {f : Frame} (silent : f.isAsking = false) : f.isRequestN = false := by
  cases f with
  | requestN id n => contradiction
  | _ => rfl

theorem Starts.unasked {taker : Consumer} {frames : List Frame} (starts : s.Starts taker frames) :
    ∀ f ∈ frames, f.isRequestN = false := by
  cases starts with
  | due known due silent => exact fun f written => isRequestN_of_silent (silent f written)
  | channel unknown asked silent => simp [silent]
  | stream f known asked type eq => simp [eq, Frame.isRequestN]

/-- A batch was asked for or is pledged, unless the consumer is to ask for it. -/
theorem Starts.pledged {taker : Consumer} {frames : List Frame} (starts : s.Starts taker frames)
    (initial : ∀ f, .payload f ∈ frames → f.type.hasInitialRequest = true →
      f.initial = taker.batch) :
    s.pledged taker.batch + (frames.map (·.asksFor)).sum =
      if taker.grantDue then 0 else taker.batch.toNat := by
  cases starts with
  | due known due silent => simp [Exchange.pledged, known, due, sum_asksFor_eq_zero silent]
  | channel unknown asked silent => simp [Exchange.pledged, unknown, asked, silent]
  | stream f known asked type eq =>
    have asks := initial f (by simp [eq]) (by rw [type]; rfl)
    simp [eq, Exchange.pledged, known, asked, Frame.asksFor, type, FrameType.hasInitialRequest,
      asks]

end Exchange
end StreamMux
