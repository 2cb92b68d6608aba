import StreamMux.Proofs.Agreement.Traffic

/-!
# The two ends agree on which streams are open

Whenever nothing is queued or on its way between a client and a server (`World.Silent`), a request
for an answer or for a stream is registered at both ends or at neither, whatever was dropped,
finished, failed or canceled on the way. So it is with the directions of a channel that the peer was
told of, if its consumer was kept until it had come to the end, or until nothing more was sent
(`World.Traffic.ends_agree`). The end that was asked for the channel may do what it likes: it may
say nothing more and go on to take items, or drop them and go on to speak.
-/
namespace StreamMux

namespace Connection

variable {c : Connection} {id : UInt32} {i : Nat} {s : Exchange}

/-- What is closed of the stream with an id: of one that is not registered, everything. -/
def closedOf (c : Connection) (id : UInt32) : Directions :=
  match c.registry.get? id with
  | some i => (c.stream i).closed
  | none => Directions.both

/-- A stream that has left the registry has closed everything. -/
theorem Holds.closedOf (holds : c.Holds id i s) : c.closedOf id = s.closed := by
  unfold Connection.closedOf
  rw [holds.registered]
  split
  next j found =>
    split at found
    · contradiction
    · rw [← Option.some.inj found, holds.stream]
  next nothing =>
    split at nothing
    next finished => exact (Exchange.closed_of_isOver finished).symm
    · contradiction

theorem Holds.contains (holds : c.Holds id i s) : c.registry.contains id = !s.isOver := by
  rw [Registry.contains, holds.registered]
  cases s.isOver <;> rfl

end Connection

namespace World

/-- Nothing is queued or on its way. -/
structure Silent (w : World) : Prop where
  queues : ∀ {here e}, w.endpoint? here = some e → e.connection.queue.isEmpty = true
  pipes : ∀ here, (w.writes here).frames.isEmpty = true

variable {kept : End → Nat → Prop} {issued : List UInt32} {w : World} {here : End}
  {e f : Endpoint} {id : UInt32} {i : Nat} {s : Exchange}

theorem Silent.signals (silent : w.Silent) (live : w.Live) (here : End) (id : UInt32) :
    w.link.signals here id = [] := by
  obtain ⟨e, found, _⟩ := live here
  have queue := silent.queues found
  have pipe := silent.pipes here
  rw [FrameQueue.isEmpty, Bool.and_eq_true, Fifo.isEmpty_iff, Fifo.isEmpty_iff] at queue
  rw [Fifo.isEmpty_iff] at pipe
  have waiting : e.connection.waiting = [] := queue.2
  have written : w.link.pipes here = [] := by
    rw [link_pipes, pipe]
    rfl
  rw [Link.signals, Link.transit, link_ends found, waiting, written]
  rfl

/-- In silence, the other end of a stream that it was told of is there and has closed the same. -/
theorem Link.Shares.mirrors {l : Link} (h : l.Shares issued here id i s)
    (silent : ∀ here, l.signals here id = [])
    (told : s.kind = .requesterChannel → s.initiated = true) :
    ∃ j t, (l.ends (across here)).Holds id j t ∧ s.closed.outbound = t.closed.inbound ∧
      s.closed.inbound = t.closed.outbound := by
  have accord := h.accord
  rw [silent, silent] at accord
  cases accord with
  | told known facing talk =>
    obtain ⟨rfl, sends, takes⟩ := talk.mirrors
    cases facing with
    | present holds answers started => exact ⟨_, _, holds, sends, takes⟩
  | untold untold =>
    have unknown := untold.unopened.2
    rw [told untold.unopened.1] at unknown
    contradiction

/-- In silence, an answer or a stream that one end asked for is registered at both ends or at
neither. Of a channel whose opening was sent, and whose consumer was kept until it had come to the
end or nothing more was sent, each end has closed what the other has. -/
theorem Traffic.ends_agree {config config' : ConnectionConfig} {setup setup' : Option Setup}
    {a a' : Application}
    (traffic : Traffic kept (joined config config' setup setup' a a') issued w) (silent : w.Silent)
    (found : w.endpoint? here = some e) (found' : w.endpoint? (across here) = some f)
    (placed : i < e.connection.streams.size) (named : (e.connection.stream i).id = id) :
    ((e.connection.stream i).kind = .requesterResponse ∨
        (e.connection.stream i).kind = .requesterStream →
      (e.connection.registry.contains id ↔ f.connection.registry.contains id)) ∧
    ((e.connection.stream i).kind = .requesterChannel →
      (e.connection.stream i).initiated = true → kept here i →
      ((e.connection.closedOf id).outbound ↔ (f.connection.closedOf id).inbound) ∧
      ((e.connection.closedOf id).inbound ↔ (f.connection.closedOf id).outbound)) := by
  obtain ⟨live, agrees, _⟩ := traffic.accords (joined_accords config config' setup setup' a a')
  have near := link_ends found
  have far := link_ends found'
  have shares := agrees.shares here i (by rw [near]; exact placed)
  rw [near, named] at shares
  -- Both parts rest on this: the other end holds the stream, with the directions swapped.
  have mirrors (requester : (e.connection.stream i).kind.isRequester = true)
      (keep : (e.connection.stream i).kind = .requesterChannel →
        (e.connection.stream i).initiated = true ∧ kept here i) :
      e.connection.Holds id i (e.connection.stream i) ∧ ∃ j t, f.connection.Holds id j t ∧
        (e.connection.stream i).closed.outbound = t.closed.inbound ∧
        (e.connection.stream i).closed.inbound = t.closed.outbound := by
    have share := shares requester fun channel => (keep channel).2
    have holds := share.holds
    obtain ⟨j, t, there, same⟩ :=
      share.mirrors (silent.signals live · id) fun channel => (keep channel).1
    rw [near] at holds
    rw [far] at there
    exact ⟨holds, j, t, there, same⟩
  refine ⟨fun plain => ?_, fun channel known keep => ?_⟩
  · obtain ⟨holds, j, t, there, sends, takes⟩ :=
      mirrors (by rcases plain with kind | kind <;> rw [kind] <;> rfl)
        (by rcases plain with kind | kind <;> simp [kind])
    have same : (e.connection.stream i).isOver = t.isOver := Bool.eq_iff_iff.mpr <| by
      rw [Exchange.isOver_iff, Exchange.isOver_iff, sends, takes, and_comm]
    rw [holds.contains, there.contains, same]
  · obtain ⟨holds, j, t, there, sends, takes⟩ :=
      mirrors (by rw [channel]; rfl) fun _ => ⟨known, keep⟩
    rw [holds.closedOf, there.closedOf, sends, takes]
    exact ⟨Iff.rfl, Iff.rfl⟩

/-! ### A run into silence -/

instance (s : Exchange) : Decidable s.Retired :=
  decidable_of_iff (s.consumer.all (·.finished) = true) (Option.all_eq_true _ _)

instance (s : Exchange) : Decidable s.Dispensable :=
  inferInstanceAs (Decidable (_ ∨ _))

instance (c d : Connection) (i : Nat) : Decidable (c.Keeps d i) := by
  unfold Connection.Keeps
  infer_instance

instance (f : Frame) : Decidable (∃ bytes, f.encode = .ok bytes) :=
  match f.encode with
  | .ok bytes => isTrue ⟨bytes, rfl⟩
  | .error _ => isFalse (by simp)

/-- All that is queued at an end can be encoded. -/
def canWrite (e : Endpoint) : Bool :=
  (e.connection.queue.priority.toList ++ e.connection.queue.normal.toList).all
    (∃ bytes, ·.encode = .ok bytes)

theorem encodable_of_canWrite (near : canWrite w.near = true) (far : w.far.all canWrite = true) :
    w.Encodable := by
  have each {here : End} {e : Endpoint} (found : w.endpoint? here = some e) :
      canWrite e = true := by
    cases here with
    | near =>
      cases found
      exact near
    | far => exact (Option.all_eq_true _ _).mp far e found
  exact fun here e found f queued => of_decide_eq_true (List.all_eq_true.mp (each found) f queued)

/-- The near end keeps the consumer of one channel. -/
def keepsOne (i : Nat) : End → Nat → Prop
  | .near, j => j = i
  | .far, _ => False

theorem minds_one {w' : World} (keeps : w.near.connection.Keeps w'.near.connection i) :
    w.Minds (keepsOne i) w' := by
  intro here e f found found' j keep
  cases here with
  | near =>
    cases found
    cases found'
    exact keep ▸ keeps
  | far => exact keep.elim

theorem Traffic.more {w₀ w' : World} (traffic : Traffic (keepsOne i) w₀ issued w)
    (next : w.Occurs w')
    (fine : (canWrite w.near = true ∧ w.far.all canWrite = true) ∧ w'.Live ∧
      (∀ id ∈ w.spent w', id ∉ issued) ∧ w.near.connection.Keeps w'.near.connection i) :
    Traffic (keepsOne i) w₀ (issued ++ w.spent w') w' :=
  traffic.step next (encodable_of_canWrite fine.1.1 fine.1.2) fine.2.1 fine.2.2.1
    (minds_one fine.2.2.2)

/-- It never answers. On a channel it says nothing, and keeps what the peer sends. -/
def listening : Application where
  requestResponse := some fun _ => { result := none }
  requestChannel := some fun _ => { intake := .keep }

/-- Two items, and others that do not come. -/
def talking : Source :=
  { supply := .entries [.item (.ok (.ofText "y")), .item (.ok (.ofText "z"))], endless := true }

instance (w : World) : Decidable w.Silent :=
  decidable_of_iff ((w.near.connection.queue.isEmpty = true ∧
      w.far.all (·.connection.queue.isEmpty) = true) ∧
    w.outgoing.frames.isEmpty = true ∧ w.incoming.frames.isEmpty = true) <| by
    rw [Option.all_eq_true]
    constructor
    · rintro ⟨⟨near, far⟩, outgoing, incoming⟩
      refine ⟨fun {here e} found => ?_, fun here => ?_⟩
      · cases here with
        | near =>
          cases found
          exact near
        | far => exact far e found
      · cases here with
        | near => exact outgoing
        | far => exact incoming
    · intro silent
      have far (f : Endpoint) (there : w.endpoint? .far = some f) := silent.queues there
      exact ⟨⟨silent.queues w.endpoint?_near, far⟩, silent.pipes .near, silent.pipes .far⟩

/-- A request that is not answered, and a channel on which nothing comes back. The application of
the far end has taken an item of it after it was done with what it had to say. -/
theorem listening_rests : ∃ issued w,
    Traffic (keepsOne 1) (joined {} {} none none .empty listening) issued w ∧
      (w.Silent ∧ w.Live) ∧ w.far.map (·.kept) = some [1] ∧
      w.near.connection.streams.size = 2 ∧
      ((w.near.connection.stream 0).id = 1 ∧
        (w.near.connection.stream 0).kind = .requesterResponse ∧
        w.near.connection.registry.contains 1 = true) ∧
      (w.near.connection.stream 1).id = 3 ∧
      (w.near.connection.stream 1).kind = .requesterChannel ∧
      (w.near.connection.stream 1).initiated = true ∧
      w.near.connection.closedOf 3 = { outbound := false, inbound := true } := by
  have run : Traffic (keepsOne 1) (joined {} {} none none .empty listening) [] _ := .start
  have run := run.more (.calls .near (.requestResponse "r" (.ofText "x"))) (by decide +kernel)
  have run := run.more (.calls .near (.requestChannel "c" talking (some 4))) (by decide +kernel)
  have run := run.more (.calls .near (.poll "c" 1)) (by decide +kernel)
  have run := run.more (.task .near (.work 0)) (by decide +kernel)
  have run := run.more (.task .near .write) (by decide +kernel)
  have run := run.more (.task .near .write) (by decide +kernel)
  have run := run.more (.task .far .read) (by decide +kernel)
  have run := run.more (.task .far .read) (by decide +kernel)
  -- What the far end says on the channel is over, but it goes on to take items.
  have run := run.more (.task .far (.work 1)) (by decide +kernel)
  have run := run.more (.calls .far (.pollKept 1)) (by decide +kernel)
  have run := run.more (.task .far .write) (by decide +kernel)
  have run := run.more (.task .far .write) (by decide +kernel)
  have run := run.more (.task .near .read) (by decide +kernel)
  have run := run.more (.task .near .read) (by decide +kernel)
  have run := run.more (.task .near (.work 0)) (by decide +kernel)
  have run := run.more (.task .near (.work 0)) (by decide +kernel)
  have run := run.more (.task .near .write) (by decide +kernel)
  have run := run.more (.task .far .read) (by decide +kernel)
  have run := run.more (.calls .far (.pollKept 1)) (by decide +kernel)
  exact ⟨_, _, run, by decide +kernel⟩

/-- The far end holds the request too, and the channel one way: it has nothing more to say, but its
application still keeps what comes in. -/
theorem listening_ends_agree : ∃ issued w f,
    Traffic (keepsOne 1) (joined {} {} none none .empty listening) issued w ∧ w.Silent ∧
      w.endpoint? .far = some f ∧ f.kept = [1] ∧ f.connection.registry.contains 1 = true ∧
      (f.connection.closedOf 3).inbound = false ∧ (f.connection.closedOf 3).outbound = true := by
  obtain ⟨issued, w, run, ⟨silent, live⟩, keeps, size, ⟨id, kind, there⟩, id', kind', known,
    closed⟩ := listening_rests
  obtain ⟨f, found, _⟩ := live .far
  have far : w.far = some f := found
  rw [far, Option.map_some, Option.some.injEq] at keeps
  have request := Traffic.ends_agree run silent w.endpoint?_near found (by omega : 0 < _) id
  have channel := Traffic.ends_agree run silent w.endpoint?_near found (by omega : 1 < _) id'
  obtain ⟨sends, takes⟩ := channel.2 kind' known rfl
  rw [closed] at sends takes
  exact ⟨issued, w, f, run, silent, found, keeps, (request.1 (.inl kind)).mp there,
    Bool.eq_false_iff.mpr fun ended => Bool.false_ne_true (sends.mpr ended), takes.mp rfl⟩

end World
end StreamMux
