import StreamMux.Proofs.Connection.Credit
import StreamMux.Proofs.Endpoint.Working

/-!
# Sequences that are sent

A task sends the items of a producer on a stream. Each item waits for credit; the end of the items
and a failure do not (`stepWork_ended`, `stepWork_failed`). With that, `items_within_credit` is the
whole account of a stream: what is sent is within what was granted, and without credit only items
stay behind.
-/
namespace StreamMux

namespace Exchange

/-- A poll that has an answer writes nothing, and leaves the sending of this end alone. -/
theorem poll_ready {s : Exchange} {item : Option Item} (answered : s.poll.1 = .ready item) :
    s.poll.2.2 = [] ∧ s.poll.2.1.id = s.id ∧ s.poll.2.1.closed = s.closed ∧
      s.poll.2.1.limiter = s.limiter := by
  unfold poll at answered ⊢
  split
  · simp
  next consumer waits =>
    rw [waits] at answered
    dsimp only at answered
    split
    · simp
    next unfinished =>
      rw [if_neg unfinished] at answered
      split
      · simp
      · simp
      next empty =>
        rw [empty] at answered
        dsimp only at answered
        split
        · simp
        next isOpen =>
          rw [if_neg isOpen] at answered
          split
          next due => rw [if_pos due] at answered; cases answered
          next due =>
            rw [if_neg due] at answered
            split
            next more => rw [if_pos more] at answered; cases answered
            next more => rw [if_neg more] at answered; cases answered

end Exchange

namespace Endpoint

variable {e f : Endpoint} {i k : Nat} {p : Producer}

/-- What a stream sends is the same in two states of a connection. -/
structure Sending (i : Nat) (c d : Connection) : Prop where
  waiting : d.waiting = c.waiting
  accepts : d.queue.accepts = c.queue.accepts
  size : d.streams.size = c.streams.size
  id : (d.stream i).id = (c.stream i).id
  closed : (d.stream i).closed = (c.stream i).closed
  limiter : (d.stream i).limiter = (c.stream i).limiter

theorem Sending.refl (i : Nat) (c : Connection) : Sending i c c := ⟨rfl, rfl, rfl, rfl, rfl, rfl⟩

/-- Asking for an item of the peer, if it is there, sends nothing. -/
theorem pullInbound_ready {item : Option Item} {reports : Bool}
    (placed : i < e.connection.streams.size)
    (answered : (e.pullInbound i reports).1 = .ready item) :
    Sending i e.connection (e.pullInbound i reports).2.connection := by
  have answer : (e.pullInbound i reports).1 = (e.connection.stream i).poll.1 := by
    unfold pullInbound
    dsimp only
    split
    · rfl
    · rfl
  have connection : (e.pullInbound i reports).2.connection =
      e.connection.commit i (e.connection.stream i).poll.2.1 (e.connection.stream i).poll.2.2 := by
    unfold pullInbound
    dsimp only
    split
    · split
      · rfl
      · rfl
    · rfl
  obtain ⟨silent, id, closed, limiter⟩ := Exchange.poll_ready (answer ▸ answered)
  rw [connection, silent]
  have stream := Connection.stream_commit e.connection placed (e.connection.stream i).poll.2.1 [] i
  rw [if_pos rfl] at stream
  refine ⟨?_, rfl, Connection.size_commit _ _ _ _, ?_, ?_, ?_⟩
  · rw [Connection.waiting_commit]
    simp
  · rw [stream, id]
  · rw [stream, closed]
  · rw [stream, limiter]

/-- A producer that is not to be asked again has given its answer without sending anything. -/
theorem pull_answered (placed : i < e.connection.streams.size) (p : Producer) :
    Sending i e.connection (e.pull i p).2.2.connection ∨ (e.pull i p).1 = .waiting ∨
      (e.pull i p).1 = .again := by
  have source : Sending i e.connection (e.pullSource p.tail).2.2.connection := by
    rw [(pullSource_rests e p.tail).connection]
    exact .refl i _
  have asked {item : Option Item} {f : Endpoint}
      (eq : e.pullInbound i p.reports = (.ready item, f)) :
      Sending i e.connection f.connection := by
    have ready : Sending i e.connection (e.pullInbound i p.reports).2.connection :=
      pullInbound_ready placed (congrArg Prod.fst eq)
    rwa [eq] at ready
  unfold pull
  split
  · exact .inl (.refl i _)
  · split
    · exact .inl source
    · exact .inl source
    · exact .inl source
    · exact .inr (.inr rfl)
    · split
      · exact .inr (.inl rfl)
      next eq => exact .inl (asked eq)
      · exact .inr (.inr rfl)
    · split
      · exact .inr (.inl rfl)
      · exact .inr (.inr rfl)
      · exact .inr (.inr rfl)

/-! ### The end of a sequence -/

/-- A task that is over may still let go of the items of the peer. -/
theorem finishProducing_sends (placed : i < e.connection.streams.size) (k : Nat) (p : Producer) :
    (∃ rest, (e.finishProducing k i p).1.connection.waiting = e.connection.waiting ++ rest) ∧
      (e.connection.stream i).limiter.Kept
        ((e.finishProducing k i p).1.connection.stream i).limiter := by
  have still := (e.setTask k none).dropSource_rests p.tail
  have same : ((e.setTask k none).dropSource p.tail).connection = e.connection := still.connection
  have silent : (∃ rest, e.connection.waiting = e.connection.waiting ++ rest) ∧
      (e.connection.stream i).limiter.Kept (e.connection.stream i).limiter :=
    ⟨⟨[], (List.append_nil _).symm⟩, .refl _⟩
  unfold finishProducing dropProducer
  dsimp only
  split
  · rw [same]
    exact silent
  · rw [same]
    exact silent
  · unfold dropInbound mapConnection
    dsimp only
    rw [same]
    refine ⟨⟨_, Connection.waiting_commit _ _ _ _⟩, ?_⟩
    have stream := Connection.stream_commit e.connection placed
      (e.connection.stream i).dropConsumer.1 (e.connection.stream i).dropConsumer.2 i
    rw [if_pos rfl] at stream
    rw [Connection.stepWriting, stream]
    exact (Exchange.dropConsumer_credit _).1

/-- The last frame of a sequence is enqueued, and it costs no credit. -/
theorem finish_sends {m : Exchange → Exchange × List Frame} {frame : Frame}
    (sending : Sending i e.connection f.connection) (placed : i < e.connection.streams.size)
    (accepts : e.connection.queue.accepts = true)
    (writes : (m (f.connection.stream i)).2 = [frame])
    (kept : (f.connection.stream i).limiter.Kept (m (f.connection.stream i)).1.limiter) :
    let g := ((f.mapConnection (·.stepWriting i m)).finishProducing k i p).1
    (∃ rest, g.connection.waiting = e.connection.waiting ++ frame :: rest) ∧
      (e.connection.stream i).limiter.Kept (g.connection.stream i).limiter := by
  have bound : i < f.connection.streams.size := sending.size ▸ placed
  have stream := Connection.stream_commit f.connection bound (m (f.connection.stream i)).1
    (m (f.connection.stream i)).2 i
  rw [if_pos rfl] at stream
  obtain ⟨⟨rest, more⟩, last⟩ := finishProducing_sends
    (e := f.mapConnection (·.stepWriting i m)) (i := i)
    (by simpa [mapConnection, Connection.stepWriting, Connection.size_commit] using bound) k p
  refine ⟨⟨rest, ?_⟩, ?_⟩
  · rw [more]
    change (f.connection.commit i _ _).waiting ++ rest = _
    rw [Connection.waiting_commit, sending.accepts, accepts, if_pos rfl, writes, sending.waiting,
      List.append_assoc]
    rfl
  · rw [← sending.limiter]
    refine kept.trans ?_
    rw [← stream]
    exact last

/-- A task whose items are at their end says so, whatever the credit is. -/
theorem stepWork_ended (task : e.tasks[k]?.join = some (.send i p none))
    (goes : e.connection.isStopped i = false) (accepts : e.connection.queue.accepts = true)
    (placed : i < e.connection.streams.size)
    (isOpen : (e.connection.stream i).closed.outbound = false)
    (ended : (e.pull i p).1 = .ended) :
    (∃ rest, (e.stepWork k).1.connection.waiting =
        e.connection.waiting ++ .payload (.completion (e.connection.stream i).id) :: rest) ∧
      (e.connection.stream i).limiter.Kept ((e.stepWork k).1.connection.stream i).limiter := by
  have answered := e.pull_answered placed p
  rw [ended] at answered
  unfold stepWork
  rw [task]
  dsimp only
  rw [stepSend, goes, if_neg Bool.false_ne_true]
  dsimp only
  generalize e.pull i p = result at ended answered ⊢
  obtain ⟨answer, q, f⟩ := result
  subst ended
  have sending := answered.resolve_right (by simp)
  refine finish_sends sending placed accepts ?_ (Exchange.complete_credit _).1
  rw [Exchange.complete, sending.closed, isOpen, sending.id]
  rfl

/-- A task whose items end in a failure says so, whatever the credit is. -/
theorem stepWork_failed {failure : Failure} (task : e.tasks[k]?.join = some (.send i p none))
    (goes : e.connection.isStopped i = false) (accepts : e.connection.queue.accepts = true)
    (placed : i < e.connection.streams.size)
    (isOpen : (e.connection.stream i).closed.outbound = false)
    (failed : (e.pull i p).1 = .item (.error failure)) :
    (∃ rest, (e.stepWork k).1.connection.waiting =
        e.connection.waiting ++ failure.streamFrame (e.connection.stream i).id :: rest) ∧
      (e.connection.stream i).limiter.Kept ((e.stepWork k).1.connection.stream i).limiter := by
  have answered := e.pull_answered placed p
  rw [failed] at answered
  unfold stepWork
  rw [task]
  dsimp only
  rw [stepSend, goes, if_neg Bool.false_ne_true]
  dsimp only
  generalize e.pull i p = result at failed answered ⊢
  obtain ⟨answer, q, f⟩ := result
  subst failed
  have sending := answered.resolve_right (by simp)
  refine finish_sends (m := (·.failLocally failure)) sending placed accepts ?_
    (Exchange.failLocally_credit _ failure).1
  rw [Exchange.failLocally, sending.closed, isOpen, sending.id]
  rfl

/-- Whatever the peer and the application do, in any order: the items that were enqueued for a
stream are never more than the credit that the peer granted for it, unless the credit outstanding
was at some point the largest that can be asked for. As long as the connection goes on and items can
be written none of the credit is lost, and once it was the largest each item is written as it comes.
The end of the items and a failure are written without any credit, and cost none. -/
theorem items_within_credit {side : Side} {config : ConnectionConfig} {setup : Option Setup}
    {now : Duration} {c : Connection} {past : List Connection.Event}
    (history : Connection.History (.new side config setup now) past c) {i : Nat}
    (placed : i < c.streams.size) (kind : (c.stream i).kind.needsCredit = true) :
    (¬ Connection.Filled past i →
      countItems (Connection.sent past i) ≤ Connection.granted past i) ∧
    (c.isActive = true → (c.stream i).limiter.cancelled = false →
      (c.stream i).closed.outbound = false →
      (¬ Connection.Filled past i → countItems (Connection.sent past i) +
        (c.stream i).limiter.credit = Connection.granted past i) ∧
      (Connection.Filled past i → ∀ payload, (c.stream i).offer payload =
        (.sent, c.stream i, [.payload (.item (c.stream i).id payload)]))) ∧
    (∀ (e : Endpoint) (k : Nat) (p : Producer), e.connection = c →
      e.tasks[k]?.join = some (.send i p none) → c.isStopped i = false →
      (c.stream i).closed.outbound = false →
      ((e.pull i p).1 = .ended → (c.stream i).limiter.Kept
          ((e.stepWork k).1.connection.stream i).limiter ∧
        ∃ rest, (e.stepWork k).1.connection.waiting =
          c.waiting ++ .payload (.completion (c.stream i).id) :: rest) ∧
      ∀ failure, (e.pull i p).1 = .item (.error failure) → (c.stream i).limiter.Kept
          ((e.stepWork k).1.connection.stream i).limiter ∧
        ∃ rest, (e.stepWork k).1.connection.waiting =
          c.waiting ++ failure.streamFrame (c.stream i).id :: rest) := by
  have sound := Connection.sound_new side config setup now
  have within := history.within sound rfl placed kind
  have bounded (unfilled : ¬ Connection.Filled past i) : (c.stream i).limiter.unbounded = false :=
    Bool.eq_false_iff.mpr fun unbounded => unfilled (within.unbounded unbounded)
  refine ⟨fun unfilled => ?_,
    fun goes live isOpen => ⟨fun unfilled => ?_, fun filled payload => ?_⟩, ?_⟩
  · exact Nat.le_trans (Nat.le_add_right _ _) (within.bounded (bounded unfilled))
  · exact within.exact goes (bounded unfilled) live isOpen
  · have unbounded := within.filled filled goes live isOpen
    simp [Exchange.offer, Limiter.acquire, live, unbounded, isOpen]
  · intro e k p same task goes isOpen
    subst same
    have active : e.connection.isActive = true := by
      unfold Connection.isStopped at goes
      cases active : e.connection.isActive with
      | true => rfl
      | false => simp [active] at goes
    have accepts := ((history.sound sound).accepts).trans active
    exact ⟨fun ended => (stepWork_ended task goes accepts placed isOpen ended).symm,
      fun failure failed => (stepWork_failed task goes accepts placed isOpen failed).symm⟩

/-- One item is granted and one is sent. The end of the items needs no more. -/
theorem items_within_credit_of_spent :
    let start := Connection.new .server {} none 0
    let request := Frame.payload (.requestStream 1 1 Payload.empty)
    let opened := (start.dispatch (fun _ => true) 0 request).1
    let sending := opened.stepWriting 0 ((Exchange.Move.offer Payload.empty).apply ·)
    let past : List Connection.Event :=
      [⟨start, .handles request, opened⟩, ⟨opened, .act 0 (.offer Payload.empty), sending⟩]
    let e : Endpoint :=
      { connection := sending, application := .empty, tasks := #[some (.send 0 {} none)] }
    countItems (Connection.sent past 0) = 1 ∧ Connection.granted past 0 = 1 ∧
      (sending.stream 0).limiter.credit = 0 ∧
      countItems (Connection.sent past 0) ≤ Connection.granted past 0 ∧
      ∃ rest, (e.stepWork 0).1.connection.waiting =
        sending.waiting ++ .payload (.completion 1) :: rest := by
  intro start request opened sending past e
  have first : Connection.Does start (.handles request) opened := .handles _ _ _ _
  have second : Connection.Does opened (.act 0 (.offer Payload.empty)) sending :=
    .act _ _ _ rfl (by decide) ⟨rfl, rfl⟩
  have history : Connection.History start past sending :=
    (Connection.History.start.step first).step second
  have granted : Connection.granted past 0 = 1 := by decide
  have law := items_within_credit history (i := 0) (by decide) rfl
  have less := law.1 (Connection.not_filled_of_granted (by rw [granted]; decide))
  have ended := (law.2.2 e 0 {} rfl rfl (by decide) (by decide)).1 rfl
  exact ⟨by decide, granted, by decide, less, ended.2⟩

end Endpoint
end StreamMux
