import StreamMux.Proofs.Exchange.Effect

/-!
# What a stream owes to those who wait on it

As long as the direction of the peer is open, the inbox is open too, it holds payloads only, and
neither the consumer nor the caller of a request-response has been served to the end (`Receptive`).
So a stream that fails owes the consumer what is in the inbox and then the cause (`Owes.of_fail`),
and the caller the cause (`fail_answer`). Once the inbox is closed nothing but the consumer itself
changes what it is owed (`Move.owes`).
-/
namespace StreamMux.Exchange

variable {s t : Exchange}

/-! ### Moves that those who wait do not notice -/

theorem grant_eq (s : Exchange) (n : Nat) : ∃ limiter, s.grant n = { s with limiter } := by
  unfold grant
  split
  · exact ⟨_, rfl⟩
  · exact ⟨s.limiter, rfl⟩

theorem offer_eq (s : Exchange) (payload : Payload) :
    ∃ limiter, (s.offer payload).2.1 = { s with limiter } := by
  unfold offer
  split
  · exact ⟨_, rfl⟩
  · exact ⟨_, rfl⟩
  · dsimp only
    split
    · exact ⟨_, rfl⟩
    · exact ⟨_, rfl⟩

theorem openChannel_eq (s : Exchange) (initial : UInt32) (first : Payload) :
    ∃ initiated, (s.openChannel initial first).2.1 = { s with initiated } := by
  unfold openChannel
  split
  · exact ⟨s.initiated, rfl⟩
  · exact ⟨_, rfl⟩

theorem openSilentChannel_eq (s : Exchange) (initial : UInt32) : ∃ closed initiated,
    (s.openSilentChannel initial).1 = { s with closed, initiated } ∧
      closed.inbound = s.closed.inbound := by
  unfold openSilentChannel
  split
  · exact ⟨s.closed, s.initiated, rfl, rfl⟩
  · exact ⟨_, _, rfl, by simp⟩

theorem receive_closed (closed : s.closed.inbound = true) (uptake : Uptake) (f : PayloadFrame) :
    s.receive uptake f = { stream := s } := if_pos closed

theorem failInbox_ended (ended : s.inboxOpen = false) (f : Failure) : s.failInbox f = s := by
  cases s
  simp_all [failInbox, deposit, endInbox]

/-! ### Those who wait -/

/-- Whoever waits on a stream of which the peer's direction is open has something to wait for. -/
structure Receptive (s : Exchange) : Prop where
  inbox : s.kind.hasConsumer = true → s.closed.inbound = false → s.inboxOpen = true
  items : s.inboxOpen = true → ∀ item ∈ s.inbox.toList, ∃ payload, item = .ok payload
  unfinished : s.inboxOpen = true → ∀ consumer, s.consumer = some consumer →
    consumer.finished = false
  asked : s.kind = .requesterResponse → s.answer ≠ .none
  awaited : s.kind = .requesterResponse → s.closed.inbound = false → s.answer = .awaited

/-- The inbox is as it was, and the consumer has not come to an end. -/
theorem Receptive.of_same (h : s.Receptive) (kind : t.kind = s.kind)
    (inbound : t.closed.inbound = false → s.closed.inbound = false) (inbox : t.inbox = s.inbox)
    (isOpen : t.inboxOpen = s.inboxOpen) (answer : t.answer = s.answer)
    (unfinished : s.inboxOpen = true → ∀ consumer, t.consumer = some consumer →
      consumer.finished = false) : t.Receptive where
  inbox takes live := isOpen ▸ h.inbox (kind ▸ takes) (inbound live)
  items live := by
    rw [inbox]
    exact h.items (isOpen ▸ live)
  unfinished live := unfinished (isOpen ▸ live)
  asked asks := answer ▸ h.asked (kind ▸ asks)
  awaited asks live := answer ▸ h.awaited (kind ▸ asks) (inbound live)

/-- Nothing more comes in. -/
theorem Receptive.of_ended (h : s.Receptive) (kind : t.kind = s.kind)
    (closed : t.closed.inbound = true) (ended : t.inboxOpen = false)
    (answer : s.answer ≠ .none → t.answer ≠ .none) : t.Receptive where
  inbox _ live := by simp [closed] at live
  items live := by simp [ended] at live
  unfinished live := by simp [ended] at live
  asked asks := answer (h.asked (kind ▸ asks))
  awaited _ live := by simp [closed] at live

/-- A caller that asked has an answer after it was given one. -/
theorem settle_answer (result : Item) (asked : s.answer ≠ .none) :
    (s.settle result).answer ≠ .none ∧ (s.settle result).answer ≠ .awaited := by
  unfold settle
  cases answer : s.answer with
  | none => contradiction
  | awaited => simp
  | given first => simp [answer]

/-- The first result stays. -/
theorem settle_given {first : Item} (given : s.answer = .given first) (result : Item) :
    s.settle result = s := by
  simp [settle, given]

theorem failInbox_answer (s : Exchange) (f : Failure) : (s.failInbox f).answer = s.answer := by
  obtain ⟨inbox, eq⟩ := s.failInbox_eq f
  rw [eq]

theorem fail_answered (asked : s.answer ≠ .none) (cause : Failure) :
    (s.fail cause).answer ≠ .none ∧ (s.fail cause).answer ≠ .awaited := by
  unfold fail
  refine settle_answer _ ?_
  rw [failInbox_answer]
  exact asked

/-- What fails closes both directions and the inbox. -/
theorem fail_receptive (h : s.Receptive) (cause : Failure) : (s.fail cause).Receptive := by
  have answer (asked : s.answer ≠ .none) := (fail_answered asked cause).1
  obtain ⟨inbox, given, eq⟩ := s.fail_eq cause
  rw [eq] at answer ⊢
  exact h.of_ended rfl rfl rfl answer

theorem failInbox_receptive (h : s.Receptive) (closed : s.closed.inbound = true) (f : Failure) :
    (s.failInbox f).Receptive := by
  obtain ⟨inbox, eq⟩ := s.failInbox_eq f
  rw [eq]
  exact h.of_ended rfl closed rfl fun asked => asked

theorem close_receptive (h : s.Receptive) (sides : Directions) : (s.close sides).Receptive :=
  h.of_same rfl (fun live => (Bool.or_eq_false_iff.mp live).1) rfl rfl rfl h.unfinished

theorem deposit_receptive (h : s.Receptive) (payload : Payload) :
    (s.deposit (.ok payload)).Receptive := by
  unfold deposit
  split
  next isOpen =>
    refine ⟨h.inbox, fun _ item member => ?_, h.unfinished, h.asked, h.awaited⟩
    rw [Fifo.toList_push, List.mem_append, List.mem_singleton] at member
    rcases member with old | rfl
    · exact h.items isOpen item old
    · exact ⟨payload, rfl⟩
  · exact h

/-- The answer of a request-response ends what comes in. -/
theorem answered_receptive (h : s.Receptive) (result : Item) :
    ((s.settle result).close Directions.inboundOnly).Receptive := by
  have settled := settle_answer (s := s) result
  obtain ⟨answer, eq⟩ := s.settle_eq result
  rw [eq] at settled ⊢
  exact
    { inbox := fun _ live => by simp [close] at live
      items := h.items
      unfinished := h.unfinished
      asked := fun asks => (settled (h.asked asks)).1
      awaited := fun _ live => by simp [close] at live }

theorem poll_receptive (h : s.Receptive) : s.poll.2.1.Receptive := by
  unfold poll
  split
  · exact h
  next consumer waits =>
    have unfinished := fun live => h.unfinished live consumer waits
    split
    · exact h
    · split
      next payload inbox taken =>
        have split := Fifo.pop?_eq_some taken
        refine ⟨h.inbox, fun live item member => ?_, fun live _ same => ?_, h.asked, h.awaited⟩
        · exact h.items live item (split ▸ List.mem_cons_of_mem _ member)
        · cases same
          exact unfinished live
      next f inbox taken =>
        -- A failure comes into the inbox with its end only.
        have split := Fifo.pop?_eq_some taken
        have ended : s.inboxOpen = false := by
          refine Bool.eq_false_iff.mpr fun live => ?_
          obtain ⟨payload, absurd⟩ := h.items live (.error f) (split ▸ List.mem_cons_self)
          contradiction
        refine ⟨h.inbox, fun live => ?_, fun live => ?_, h.asked, h.awaited⟩
        · simp [ended] at live
        · simp [ended] at live
      · split
        next ended =>
          refine h.of_same rfl (fun live => live) rfl rfl rfl fun live => ?_
          simp [live] at ended
        · have goes (consumer' : Consumer) (same : consumer'.finished = consumer.finished) :
              { s with consumer := some consumer' }.Receptive := by
            refine h.of_same rfl (fun live => live) rfl rfl rfl fun live _ eq => ?_
            cases eq
            exact same.trans (unfinished live)
          split
          · exact goes _ rfl
          · split
            · exact goes _ rfl
            · exact h

theorem cancelLocally_receptive (h : s.Receptive) (sides : Directions) :
    (s.cancelLocally sides).1.Receptive := by
  rw [cancelLocally_eq]
  exact h.of_same rfl (fun live => (Bool.or_eq_false_iff.mp live).1) rfl rfl rfl h.unfinished

theorem dropConsumer_receptive (h : s.Receptive) : s.dropConsumer.1.Receptive := by
  have gone : { s with consumer := none }.Receptive :=
    h.of_same rfl (fun live => live) rfl rfl rfl fun _ _ none => by cases none
  unfold dropConsumer
  split
  · exact h
  · dsimp only
    split
    · exact gone
    · split
      · exact cancelLocally_receptive gone _
      · exact cancelLocally_receptive gone _

theorem deliver_receptive (h : s.Receptive) (uptake : Uptake) (payload : Payload) :
    (s.deliver uptake payload).stream.Receptive := by
  have begun : { s with started := true }.Receptive :=
    h.of_same rfl (fun live => live) rfl rfl rfl h.unfinished
  unfold deliver
  split
  · exact answered_receptive h _
  · exact deposit_receptive h payload
  · exact deposit_receptive h payload
  · split
    · dsimp only
      split
      · exact deposit_receptive h payload
      · exact h
    · dsimp only
      split
      · exact close_receptive begun _
      · have attached (consumer : Consumer) (fresh : consumer.finished = false) :
            { s with started := true, consumer := some consumer }.Receptive := by
          refine h.of_same rfl (fun live => live) rfl rfl rfl fun _ _ eq => ?_
          cases eq
          exact fresh
        split
        · exact attached _ rfl
        · exact dropConsumer_receptive (attached _ rfl)
      · exact close_receptive begun _

theorem completeInbound_receptive (h : s.Receptive) : s.completeInbound.Receptive := by
  unfold completeInbound
  split
  · exact answered_receptive h _
  · exact h.of_ended rfl (by simp [close]) rfl fun asked => asked
  · exact h.of_ended rfl (by simp [close]) rfl fun asked => asked
  · exact h.of_ended rfl (by simp [close]) rfl fun asked => asked
  · exact h

theorem receive_receptive (h : s.Receptive) (uptake : Uptake) (f : PayloadFrame) :
    (s.receive uptake f).stream.Receptive := by
  have kept (fragments : Option Payload) : { s with fragments }.Receptive :=
    h.of_same rfl (fun live => live) rfl rfl rfl h.unfinished
  unfold receive
  split
  · exact h
  · have whole (payload : Payload) :
        let r : Reception := if s.carriesPayload f
          then { s with fragments := none }.deliver uptake payload else { stream := s }
        r.stream.Receptive := by
      dsimp only
      split
      · exact deliver_receptive (kept none) uptake payload
      · exact h
    dsimp only
    split
    · exact kept _
    · split
      · exact completeInbound_receptive (whole _)
      · exact whole _

theorem cancelByPeer_receptive (h : s.Receptive) : s.cancelByPeer.Receptive := by
  unfold cancelByPeer
  split
  · exact h.of_same rfl (fun live => (Bool.or_eq_false_iff.mp live).1) rfl rfl rfl h.unfinished
  · exact h
  · exact h
  · refine failInbox_receptive ?_ (by simp [close, stop]) _
    exact (close_receptive h _).of_same rfl (fun live => live) rfl rfl rfl h.unfinished

theorem failLocally_receptive (h : s.Receptive) (f : Failure) :
    (s.failLocally f).1.Receptive := by
  refine failInbox_receptive ?_ (by simp [close, stop]) _
  exact (close_receptive h _).of_same rfl (fun live => live) rfl rfl rfl h.unfinished

theorem Move.receptive (h : s.Receptive) (m : Move) : (m.apply s).1.Receptive := by
  cases m with
  | poll => exact poll_receptive h
  | dropConsumer => exact dropConsumer_receptive h
  | abandon => exact close_receptive h _
  | receive uptake f => exact receive_receptive h uptake f
  | grant n =>
    obtain ⟨limiter, eq⟩ := s.grant_eq n
    rw [apply, eq]
    exact h.of_same rfl (fun live => live) rfl rfl rfl h.unfinished
  | cancelByPeer => exact cancelByPeer_receptive h
  | fail cause => exact fail_receptive h cause
  | offer payload =>
    obtain ⟨limiter, eq⟩ := s.offer_eq payload
    rw [apply, eq]
    exact h.of_same rfl (fun live => live) rfl rfl rfl h.unfinished
  | complete => exact close_receptive h _
  | failLocally f => exact failLocally_receptive h f
  | respond result => exact close_receptive h _
  | openChannel initial first =>
    obtain ⟨initiated, eq⟩ := s.openChannel_eq initial first
    rw [apply, eq]
    exact h.of_same rfl (fun live => live) rfl rfl rfl h.unfinished
  | openSilentChannel initial =>
    obtain ⟨closed, initiated, eq, same⟩ := s.openSilentChannel_eq initial
    rw [apply, eq]
    exact h.of_same rfl (fun live => same ▸ live) rfl rfl rfl h.unfinished
  | failUnopened f =>
    exact failInbox_receptive (close_receptive h _) (by simp [close]) f

/-- A stream that the peer opens. -/
theorem responder_receptive (id : UInt32) {kind : StreamKind} (initial : UInt32)
    (answers : kind.isRequester = false) : (Exchange.responder id kind initial).Receptive := by
  refine ⟨fun takes _ => ?_, fun _ item member => ?_, fun _ _ none => ?_, fun asks => ?_,
    fun asks => ?_⟩
  · cases kind <;> simp [responder, StreamKind.isRequester, StreamKind.hasConsumer] at *
  · simp [responder, Fifo.empty, Fifo.toList] at member
  · simp [responder] at none
  · simp [show kind = .requesterResponse from asks, StreamKind.isRequester] at answers
  · simp [show kind = .requesterResponse from asks, StreamKind.isRequester] at answers

theorem requester_receptive (id batch : UInt32) :
    (requesterResponse id).Receptive ∧ (requesterStream batch id).Receptive ∧
      (requesterChannel batch id).Receptive := by
  refine ⟨?_, ?_, ?_⟩ <;>
    constructor <;>
      simp [requesterResponse, requesterStream, requesterChannel, StreamKind.hasConsumer,
        Fifo.empty, Fifo.toList]

/-! ### The caller of a request-response -/

/-- A caller that was not answered is told the cause. -/
theorem fail_answer (awaited : s.answer = .awaited) (cause : Failure) :
    (s.fail cause).answer = .given (.error cause) := by
  have before : (((s.close Directions.both).stop).failInbox cause).answer = .awaited := by
    rw [failInbox_answer]
    exact awaited
  rw [fail, settle, before]

theorem deposit_answer (s : Exchange) (item : Item) : (s.deposit item).answer = s.answer := by
  obtain ⟨inbox, eq⟩ := s.deposit_eq item
  rw [eq]

theorem dropConsumer_answer (s : Exchange) : s.dropConsumer.1.answer = s.answer := by
  unfold dropConsumer
  split
  · rfl
  · dsimp only
    split
    · rfl
    · split
      · rw [cancelLocally_eq]
      · rw [cancelLocally_eq]

theorem deliver_given {result : Item} (given : s.answer = .given result) (uptake : Uptake)
    (payload : Payload) : (s.deliver uptake payload).stream.answer = .given result := by
  unfold deliver
  split
  · rw [settle_given given]
    exact given
  · rw [deposit_answer, given]
  · rw [deposit_answer, given]
  · split
    · dsimp only
      split
      · rw [deposit_answer, given]
      · exact given
    · dsimp only
      split
      · exact given
      · split
        · exact given
        · rw [dropConsumer_answer]
          exact given
      · exact given

theorem completeInbound_given {result : Item} (given : s.answer = .given result) :
    s.completeInbound.answer = .given result := by
  unfold completeInbound
  split
  · rw [settle_given given]
    exact given
  all_goals exact given

theorem receive_given {result : Item} (given : s.answer = .given result) (uptake : Uptake)
    (f : PayloadFrame) : (s.receive uptake f).stream.answer = .given result := by
  unfold receive
  split
  · exact given
  · have whole (payload : Payload) :
        let r : Reception := if s.carriesPayload f
          then { s with fragments := none }.deliver uptake payload else { stream := s }
        r.stream.answer = .given result := by
      dsimp only
      split
      · exact deliver_given (s := { s with fragments := none }) given uptake payload
      · exact given
    dsimp only
    split
    · exact given
    · split
      · exact completeInbound_given (whole _)
      · exact whole _

theorem fail_given {result : Item} (given : s.answer = .given result) (cause : Failure) :
    (s.fail cause).answer = .given result := by
  have before : (((s.close Directions.both).stop).failInbox cause).answer = .given result := by
    rw [failInbox_answer]
    exact given
  rw [fail, settle_given before, before]

/-- An answer that is there stays. -/
theorem Move.answer_given {result : Item} (given : s.answer = .given result) (m : Move) :
    (m.apply s).1.answer = .given result := by
  cases m with
  | poll =>
    change s.poll.2.1.answer = _
    unfold Exchange.poll
    repeat' split
    all_goals exact given
  | dropConsumer => exact (dropConsumer_answer s).trans given
  | receive uptake f => exact receive_given given uptake f
  | grant n =>
    obtain ⟨limiter, eq⟩ := s.grant_eq n
    rw [apply, eq]
    exact given
  | cancelByPeer =>
    change s.cancelByPeer.answer = _
    unfold Exchange.cancelByPeer
    split
    · exact given
    · exact given
    · exact given
    · exact (failInbox_answer _ _).trans given
  | fail cause => exact fail_given given cause
  | offer payload =>
    obtain ⟨limiter, eq⟩ := s.offer_eq payload
    rw [apply, eq]
    exact given
  | failLocally f => exact (failInbox_answer _ f).trans given
  | failUnopened f => exact (failInbox_answer _ f).trans given
  | openChannel initial first =>
    obtain ⟨initiated, eq⟩ := s.openChannel_eq initial first
    rw [apply, eq]
    exact given
  | openSilentChannel initial =>
    obtain ⟨closed, initiated, eq, same⟩ := s.openSilentChannel_eq initial
    rw [apply, eq]
    exact given
  | abandon => exact given
  | complete => exact given
  | respond result => exact given

theorem deliver_response (kind : s.kind = .requesterResponse) (uptake : Uptake)
    (payload : Payload) : s.deliver uptake payload =
      { stream := (s.settle (.ok payload)).close Directions.inboundOnly } := by
  unfold deliver
  split
  · rfl
  all_goals simp_all

/-- What comes in for a request-response leaves the direction open, or is the answer. -/
theorem receive_answered (kind : s.kind = .requesterResponse) (asked : s.answer ≠ .none)
    (isOpen : s.closed.inbound = false) (uptake : Uptake) (f : PayloadFrame) :
    (s.receive uptake f).stream.closed.inbound = false ∨
      (s.receive uptake f).stream.answer ≠ .awaited := by
  have delivered (payload : Payload) :
      let r := { s with fragments := none }.deliver uptake payload
      r.stream.kind = .requesterResponse ∧ r.stream.answer ≠ .none ∧
        r.stream.answer ≠ .awaited := by
    have settled := settle_answer (s := { s with fragments := none }) (.ok payload) asked
    rw [deliver_response (s := { s with fragments := none }) kind]
    exact ⟨(settle_stays { s with fragments := none } (.ok payload)).kind.trans kind, settled⟩
  have completed (u : Exchange) (same : u.kind = .requesterResponse) (asked : u.answer ≠ .none) :
      u.completeInbound.answer ≠ .awaited := by
    simp only [completeInbound, same]
    exact (settle_answer _ asked).2
  unfold receive
  rw [if_neg (by simp [isOpen])]
  dsimp only
  split
  · exact .inl isOpen
  · split
    · split
      · exact .inr (completed _ (delivered _).1 (delivered _).2.1)
      · exact .inr (completed _ kind asked)
    · split
      · exact .inr (delivered _).2.2
      · exact .inl isOpen

/-- The caller of a request-response whose direction is closed has an answer, unless it does not
wait any longer. -/
theorem Move.answered {m : Move} (h : s.Coherent) (fits : m.Fits s)
    (kind : s.kind = .requesterResponse) (asked : s.answer ≠ .none) (waits : m ≠ .abandon)
    (isOpen : s.closed.inbound = false) :
    (m.apply s).1.closed.inbound = false ∨ (m.apply s).1.answer ≠ .awaited := by
  have gone : s.consumer = none := h.consumer_none (by rw [kind]; rfl)
  have noCredit (sends : s.Sends) : False := by
    simp [Sends, kind, StreamKind.needsCredit] at sends
  cases m with
  | poll => exact .inl (by simp [apply, Exchange.poll, gone, isOpen])
  | dropConsumer => exact .inl (by simp [apply, Exchange.dropConsumer, gone, isOpen])
  | abandon => contradiction
  | receive uptake f => exact receive_answered kind asked isOpen uptake f
  | grant n =>
    obtain ⟨limiter, eq⟩ := s.grant_eq n
    exact .inl (by rw [apply, eq]; exact isOpen)
  | cancelByPeer => exact .inl (by simp [apply, Exchange.cancelByPeer, kind, isOpen])
  | fail cause => exact .inr (fail_answered asked cause).2
  | offer payload => exact (noCredit fits).elim
  | complete => exact (noCredit fits).elim
  | failLocally f => exact (noCredit fits).elim
  | respond result => simp [Fits, kind] at fits
  | openChannel initial first => simp [Fits, Unopened, kind] at fits
  | openSilentChannel initial => simp [Fits, Unopened, kind] at fits
  | failUnopened f => simp [Fits, Unopened, kind] at fits

/-! ### The consumer of a stream that has failed -/

/-- What the consumer is still given, one item each time that it asks. -/
inductive Owes (s : Exchange) (cause : Failure) : List Item → Prop
  | items {consumer : Consumer} (payloads : List Payload) (waits : s.consumer = some consumer)
      (unfinished : consumer.finished = false)
      (inbox : s.inbox.toList = payloads.map .ok ++ [.error cause]) :
      Owes s cause (payloads.map .ok ++ [.error cause])
  | nothing {consumer : Consumer} (waits : s.consumer = some consumer)
      (finished : consumer.finished = true) : Owes s cause []

/-- A consumer that was still waiting is given what is in the inbox, and then the cause. -/
theorem Owes.of_fail (h : s.Receptive) {consumer : Consumer} (waits : s.consumer = some consumer)
    (isOpen : s.inboxOpen = true) (cause : Failure) :
    (s.fail cause).Owes cause (s.inbox.toList ++ [.error cause]) := by
  obtain ⟨payloads, eq⟩ : ∃ payloads : List Payload, s.inbox.toList = payloads.map .ok := by
    have items := h.items isOpen
    generalize s.inbox.toList = l at items
    induction l with
    | nil => exact ⟨[], rfl⟩
    | cons item rest ih =>
      obtain ⟨payload, rfl⟩ := items item List.mem_cons_self
      obtain ⟨payloads, rfl⟩ := ih fun item member => items item (List.mem_cons_of_mem _ member)
      exact ⟨payload :: payloads, rfl⟩
  have inbox : (s.fail cause).inbox.toList = s.inbox.toList ++ [.error cause] := by
    unfold fail
    obtain ⟨answer, settled⟩ :=
      (((s.close Directions.both).stop).failInbox cause).settle_eq (.error cause)
    rw [settled]
    simp [failInbox, deposit, endInbox, close, stop, isOpen]
  have kept : (s.fail cause).consumer = some consumer := by
    obtain ⟨inbox, answer, eq⟩ := s.fail_eq cause
    rw [eq]
    exact waits
  rw [eq] at inbox ⊢
  exact .items payloads kept (h.unfinished isOpen consumer waits) inbox

/-- It asks, and is given the next item that it is owed. -/
theorem Owes.poll {cause : Failure} {items : List Item} (owes : s.Owes cause items) :
    s.poll.1 = .ready items.head? ∧ s.poll.2.1.Owes cause items.tail := by
  cases owes with
  | @items consumer payloads waits unfinished inbox =>
    unfold Exchange.poll
    rw [waits]
    dsimp only
    rw [if_neg (by simp [unfinished])]
    cases taken : s.inbox.pop? with
    | none =>
      rw [(Fifo.pop?_eq_none_iff _).mp taken] at inbox
      simp at inbox
    | some next =>
      obtain ⟨item, rest⟩ := next
      have split := Fifo.pop?_eq_some taken
      rw [inbox] at split
      cases payloads with
      | nil =>
        simp only [List.map_nil, List.nil_append, List.cons.injEq] at split
        obtain ⟨rfl, -⟩ := split
        exact ⟨rfl, .nothing rfl rfl⟩
      | cons payload payloads =>
        simp only [List.map_cons, List.cons_append, List.cons.injEq] at split
        obtain ⟨rfl, left⟩ := split
        exact ⟨rfl, .items payloads rfl unfinished left.symm⟩
  | @nothing consumer waits finished =>
    unfold Exchange.poll
    rw [waits]
    dsimp only
    rw [if_pos finished]
    exact ⟨rfl, .nothing waits finished⟩

/-- Nobody but the consumer itself changes what it is given, once nothing more comes in. -/
theorem Move.owes {cause : Failure} {items : List Item} (owes : s.Owes cause items)
    (ended : s.inboxOpen = false) (closed : s.closed.inbound = true) {m : Move}
    (asks : m ≠ .poll) (stays : m ≠ .dropConsumer) : (m.apply s).1.Owes cause items := by
  have kept (inbox : (m.apply s).1.inbox = s.inbox)
      (consumer : (m.apply s).1.consumer = s.consumer) : (m.apply s).1.Owes cause items := by
    cases owes with
    | items payloads waits unfinished eq =>
      exact .items payloads (consumer.trans waits) unfinished (inbox ▸ eq)
    | nothing waits finished => exact .nothing (consumer.trans waits) finished
  have failed {u : Exchange} (inbox : u.inbox = s.inbox) (same : u.consumer = s.consumer)
      (halted : u.inboxOpen = false) (f : Failure) :
      (u.failInbox f).inbox = s.inbox ∧ (u.failInbox f).consumer = s.consumer := by
    rw [failInbox_ended halted]
    exact ⟨inbox, same⟩
  cases m with
  | poll => contradiction
  | dropConsumer => contradiction
  | receive uptake f =>
    have same : (apply s (.receive uptake f)).1 = s := by
      rw [apply, receive_closed closed]
    rw [same]
    exact owes
  | grant n =>
    obtain ⟨limiter, eq⟩ := s.grant_eq n
    exact kept (by rw [apply, eq]) (by rw [apply, eq])
  | cancelByPeer =>
    obtain ⟨inbox, consumer⟩ : s.cancelByPeer.inbox = s.inbox ∧
        s.cancelByPeer.consumer = s.consumer := by
      unfold Exchange.cancelByPeer
      split
      · exact ⟨rfl, rfl⟩
      · exact ⟨rfl, rfl⟩
      · exact ⟨rfl, rfl⟩
      · exact failed (u := (s.close Directions.both).stop) rfl rfl ended _
    exact kept inbox consumer
  | fail cause =>
    obtain ⟨inbox, consumer⟩ := failed (u := (s.close Directions.both).stop) rfl rfl ended cause
    obtain ⟨answer, eq⟩ :=
      (((s.close Directions.both).stop).failInbox cause).settle_eq (.error cause)
    have same : s.fail cause =
        { ((s.close Directions.both).stop).failInbox cause with answer } := eq
    exact kept (by rw [apply, same, ← inbox]) (by rw [apply, same, ← consumer])
  | offer payload =>
    obtain ⟨limiter, eq⟩ := s.offer_eq payload
    exact kept (by rw [apply, eq]) (by rw [apply, eq])
  | openChannel initial first =>
    obtain ⟨initiated, eq⟩ := s.openChannel_eq initial first
    exact kept (by rw [apply, eq]) (by rw [apply, eq])
  | openSilentChannel initial =>
    obtain ⟨closed, initiated, eq, same⟩ := s.openSilentChannel_eq initial
    exact kept (by rw [apply, eq]) (by rw [apply, eq])
  | failLocally f =>
    obtain ⟨inbox, consumer⟩ := failed (u := (s.close Directions.both).stop) rfl rfl ended f
    exact kept inbox consumer
  | failUnopened f =>
    obtain ⟨inbox, consumer⟩ := failed (u := s.close Directions.both) rfl rfl ended f
    exact kept inbox consumer
  | abandon => exact kept rfl rfl
  | complete => exact kept rfl rfl
  | respond result => exact kept rfl rfl

end StreamMux.Exchange
