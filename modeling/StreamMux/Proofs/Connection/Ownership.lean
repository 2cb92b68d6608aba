import StreamMux.Proofs.Connection.Apart
import StreamMux.Proofs.Connection.Terminal

/-!
# Which end an id belongs to

The two ends of a connection draw from disjoint sets of ids. An allocator stays within the set of
its end however often its counter wraps (`issues_of_next?`), and finds a free id of the set as long
as there is one (`StreamIds.taken_of_next?`). A stream therefore has an id of the end that asked for
it (`Does.owned`), and only this end's own requests put a stream under an id of this end
(`Course.names_of_own`). The result for all runs is `History.ids_owned`.
-/
namespace StreamMux

/-! ### The ids of a side -/

/-- What the ids of a side leave when they are divided by two. -/
def Side.parity : Side → Nat
  | .client => 1
  | .server => 0

/-- The id is one of those that the side gives out, and has no top bit. -/
def Side.Issues (side : Side) (id : UInt32) : Prop := IsStreamId id ∧ side.owns id = true

/-- The side that asked for a stream, seen from the end that keeps it. -/
def Exchange.opener (side : Side) (s : Exchange) : Side :=
  if s.kind.isRequester then side else side.other

theorem Side.owns_iff (side : Side) (id : UInt32) :
    side.owns id = true ↔ id ≠ 0 ∧ id.toNat % 2 = side.parity := by
  have mod : (id % 2).toNat = id.toNat % 2 := UInt32.toNat_mod id 2
  cases side with
  | client =>
    have odd : id % 2 = 1 ↔ id.toNat % 2 = 1 := by rw [← UInt32.toNat_inj, mod]; rfl
    simp only [owns, beq_iff_eq, odd, parity]
    refine ⟨fun one => ⟨?_, one⟩, And.right⟩
    rintro rfl
    contradiction
  | server =>
    have even : id % 2 = 0 ↔ id.toNat % 2 = 0 := by rw [← UInt32.toNat_inj, mod]; rfl
    simp [owns, even, parity]

/-- An id that is none of this side's, and not the connection's, is one of the other's. -/
theorem Side.other_owns {side : Side} {id : UInt32} (nonzero : id ≠ 0)
    (foreign : side.owns id = false) : side.other.owns id = true := by
  rw [owns_iff]
  refine ⟨nonzero, ?_⟩
  have not : ¬ (id ≠ 0 ∧ id.toNat % 2 = side.parity) := by rw [← owns_iff, foreign]; simp
  have odd : id.toNat % 2 ≠ side.parity := fun same => not ⟨nonzero, same⟩
  cases side with
  | client => simp only [parity, other] at odd ⊢; omega
  | server => simp only [parity, other] at odd ⊢; omega

theorem decode_of_landed {f g : Frame} (h : f.landed = some g) :
    ∃ bytes, Frame.decode bytes = .ok g := by
  unfold Frame.landed at h
  obtain ⟨bytes, _, read⟩ := Option.bind_eq_some_iff.mp h
  refine ⟨bytes, ?_⟩
  unfold Frame.read? at read
  cases decoded : Frame.decode bytes with
  | error e => simp [decoded, Except.toOption] at read
  | ok f =>
    rw [decoded] at read
    exact congrArg Except.ok (Option.some.inj read)

namespace Connection

variable {c d : Connection} {deed : Deed} {past : List Event} {side : Side} {i : Nat}

/-- What an allocator of this parity gives out. -/
theorem issues_of_next? {ids ids' : StreamIds} {inUse : UInt32 → Bool} {id : UInt32}
    (parity : ids.counter.toNat % 2 = side.parity) (found : ids.next? inUse = some (id, ids')) :
    side.Issues id ∧ ids'.counter.toNat % 2 = side.parity := by
  have out := StreamIds.next?_ok found
  exact ⟨⟨out.stream, (side.owns_iff id).mpr ⟨out.nonzero, out.same.trans parity⟩⟩,
    out.parity.trans parity⟩

/-! ### What every deed keeps -/

/-- The connection is one of the side, and so are the ids of its allocator. -/
structure Seated (side : Side) (c : Connection) : Prop where
  role : c.side = side
  parity : c.ids.counter.toNat % 2 = side.parity

theorem Seated.of_next? {ids : StreamIds} {id : UInt32} (h : c.Seated side)
    (found : c.ids.next? c.registry.contains = some (id, ids)) (role : d.side = c.side)
    (same : d.ids = ids) : d.Seated side :=
  ⟨role.trans h.role, by rw [same, (issues_of_next? h.parity found).2]⟩

theorem Seated.teardown (h : c.Seated side) (cause : Failure) : (c.teardown cause).Seated side := by
  unfold Connection.teardown
  split
  · exact h
  · exact ⟨h.role, h.parity⟩

theorem Seated.terminate (h : c.Seated side) (cause : Failure) :
    (c.terminate cause).Seated side := by
  unfold Connection.terminate
  split
  · exact h
  · exact teardown (c := c.enqueuePriority cause.closingFrame) ⟨h.role, h.parity⟩ cause

theorem Seated.dispatch (h : c.Seated side) (keepsItems : Payload → Bool) (now : Duration)
    (frame : Frame) : (c.dispatch keepsItems now frame).1.Seated side := by
  have stepped (id : UInt32) (f : Exchange → Exchange) : (c.stepRegistered id f).Seated side := by
    unfold stepRegistered
    split
    · exact ⟨h.role, h.parity⟩
    · exact h
  cases frame with
  | keepAlive respond position data =>
    change (c.hear now respond).Seated side
    unfold hear
    split
    · exact ⟨h.role, h.parity⟩
    · exact ⟨h.role, h.parity⟩
  | metadataPush metadata => exact h
  | setup s => exact h
  | lease ttl requests metadata => exact h
  | error id code message =>
    unfold Connection.dispatch
    dsimp only
    split
    · exact h.teardown _
    · exact stepped id _
  | requestN id n => exact stepped id _
  | cancel id => exact stepped id _
  | payload f =>
    rw [Connection.dispatch]
    split
    · split
      · exact h
      · exact ⟨h.role, h.parity⟩
    · unfold accept
      split
      · exact h
      · split
        · exact h
        · split
          · exact h
          next opened =>
            obtain ⟨_, _, rfl, rfl⟩ := insert?_ok opened
            exact ⟨h.role, h.parity⟩

theorem asks_seated (made : c.Asks d) (h : c.Seated side) : d.Seated side := by
  cases made with
  | response payload made =>
    unfold requestResponse at made
    obtain ⟨⟨_, e⟩, registered, eq⟩ := bind_ok made
    cases eq
    obtain ⟨_, _, _, _, found, _, _, rfl⟩ := register_ok (fun _ => rfl) registered
    exact h.of_next? found rfl rfl
  | stream batch payload made =>
    unfold requestStream at made
    obtain ⟨⟨_, e⟩, registered, eq⟩ := bind_ok made
    cases eq
    obtain ⟨_, _, _, _, found, _, _, rfl⟩ := register_ok (fun _ => rfl) registered
    exact h.of_next? found rfl rfl
  | channel batch made =>
    obtain ⟨_, _, _, _, found, _, _, rfl⟩ := register_ok (fun _ => rfl) made
    exact h.of_next? found rfl rfl

theorem serves_seated (made : c.Serves d) (h : c.Seated side) : d.Seated side := by
  cases made with
  | metadataPush metadata made =>
    unfold metadataPush at made
    split at made
    · contradiction
    · split at made
      · cases made
        exact ⟨h.role, h.parity⟩
      · contradiction
  | fireAndForget payload made =>
    unfold fireAndForget at made
    split at made
    · contradiction
    · split at made
      · contradiction
      next found =>
        split at made
        · cases made
          exact h.of_next? found rfl rfl
        · contradiction
  | tick now made =>
    rw [made, tick]
    split
    · exact h.terminate _
    · exact ⟨h.role, h.parity⟩
  | teardown cause made => exact made ▸ h.teardown cause
  | terminate cause made => exact made ▸ h.terminate cause

theorem Does.seated (does : Does c deed d) (h : c.Seated side) : d.Seated side := by
  cases does with
  | asks made => exact asks_seated made h
  | serves made => exact serves_seated made h
  | act i m own placed fits => exact ⟨h.role, h.parity⟩
  | handles keepsItems now frame => exact h.dispatch keepsItems now frame
  | dequeues => exact ⟨h.role, h.parity⟩

/-- Every stream has an id of the side that asked for it. -/
structure Owned (side : Side) (c : Connection) : Prop extends c.Seated side where
  stream : ∀ i < c.streams.size, ((c.stream i).opener side).Issues (c.stream i).id

theorem owned_new (side : Side) (config : ConnectionConfig) (setup : Option Setup)
    (now : Duration) : (new side config setup now).Owned side where
  role := rfl
  parity := by
    change (StreamIds.forSide side).counter.toNat % 2 = _
    cases side <;> decide
  stream i placed := by simp [new] at placed

/-- The stream that was asked for has an id of this side. -/
theorem asks_issues (made : c.Asks d) (h : c.Seated side) (fresh : c.streams.size ≤ i)
    (placed : i < d.streams.size) : ((d.stream i).opener side).Issues (d.stream i).id := by
  obtain ⟨make, j, e, named, asks, registered, streams, _⟩ := asks_registers made
  obtain ⟨_, id, ids, registry, found, _, _, rfl⟩ := register_ok named registered
  rw [streams, Array.size_push] at placed
  rw [stream_push rfl streams, if_pos (by omega), named, Exchange.opener, asks, if_pos rfl]
  exact (issues_of_next? h.parity found).1

/-- The stream that a request of the peer opens has an id of the other side. -/
theorem accepts_issues {f : PayloadFrame} (read : Deed.IsRead (.handles (.payload f)))
    (role : c.side = side) (foreign : c.side.owns f.id = false) : side.other.Issues f.id := by
  obtain ⟨bytes, decoded⟩ := read _ rfl
  have nonzero := payload_nonzero decoded
  have low : low31 f.id = f.id := low31_decode decoded
  exact ⟨(isStreamId_iff f.id).mpr ⟨low, by rwa [low]⟩,
    Side.other_owns nonzero (role ▸ foreign)⟩

theorem Does.owned (h : c.Sound) (does : Does c deed d) (read : deed.IsRead)
    (owned : c.Owned side) : d.Owned side where
  toSeated := does.seated owned.toSeated
  stream i placed := by
    by_cases earlier : i < c.streams.size
    · have same := (does.later h).streams i earlier
      rw [Exchange.opener, same.kind, same.id]
      exact owned.stream i earlier
    · have fresh := Nat.le_of_not_lt earlier
      cases does.birth h fresh placed with
      | response id payload nonzero eq sent =>
        cases does with | asks made => exact asks_issues made owned.toSeated fresh placed
      | stream id batch payload nonzero eq sent =>
        cases does with | asks made => exact asks_issues made owned.toSeated fresh placed
      | channel id batch nonzero eq silent =>
        cases does with | asks made => exact asks_issues made owned.toSeated fresh placed
      | responder f kind uptake opens foreign eq sent =>
        have answers := ofRequest?_answers opens
        have effect := Exchange.receive_effect (responder_coherent f.id f.initial answers) uptake f
        have role : (d.stream i).kind = kind := by rw [eq, effect.kind]; rfl
        rw [Exchange.opener, role, answers, if_neg Bool.false_ne_true, eq, effect.id]
        exact accepts_issues read owned.role foreign

theorem History.owned (history : History c past d) (h : c.Sound) (owned : c.Owned side)
    (read : ∀ event ∈ past, event.deed.IsRead) : d.Owned side := by
  induction history with
  | start => exact owned
  | @step d e deed past history does ih =>
    exact does.owned (history.sound h) (read ⟨d, deed, e⟩ (by simp))
      (ih fun event member => read event (List.mem_append_left _ member))

/-! ### Who puts a stream under an id -/

/-- Under an id of this side nothing is registered, unless this end asks for a stream. -/
theorem Course.names_of_own (course : Course c d deed) (other : deed ≠ .asks)
    (read : deed.IsRead) (role : c.side = side) {id : UInt32}
    (own : id.toNat % 2 = side.parity) (held : d.registry.get? id = some i) :
    c.registry.get? id = some i := by
  cases course with
  | quiet streams registry terminal silent => rwa [registry] at held
  | moved j m placed fits touches eq =>
    rw [eq] at held
    simp only [stepWriting, commit] at held
    split at held
    · rw [Registry.get?_erase] at held
      split at held
      · contradiction
      · exact held
    · exact held
  | asked made => exact absurd rfl other
  | accepted f kind uptake registry opens foreign inserted eq =>
    have issued := ((Side.owns_iff _ f.id).mp (accepts_issues read role foreign).2).2
    have different : id ≠ f.id := by
      rintro rfl
      rw [own] at issued
      cases side <;> contradiction
    rw [eq] at held
    simp only [commit] at held
    split at held
    · rw [Registry.get?_erase] at held
      split at held
      · contradiction
      · rwa [Registry.get?_insert? inserted, if_neg different] at held
    · rwa [Registry.get?_insert? inserted, if_neg different] at held
  | ended cause eq =>
    cases live : c.isActive with
    | true =>
      have empty : d.registry = .empty := by
        rcases eq with rfl | rfl
        · exact (teardown_ended live cause).registry
        · exact (terminate_ended live cause).registry
      rw [empty] at held
      contradiction
    | false =>
      rcases eq with rfl | rfl
      · rwa [(ended_of_inactive live cause).1] at held
      · rwa [(ended_of_inactive live cause).2] at held

/-- What comes of a request for a stream of this end. -/
theorem Owned.register (h : c.Owned side) {make : UInt32 → Exchange}
    (named : ∀ id, (make id).id = id) :
    (∀ i d, c.register make = .ok (i, d) → side.Issues (d.stream i).id ∧
      c.registry.get? (d.stream i).id = none ∧ d.registry.get? (d.stream i).id = some i) ∧
    (∀ refusal, c.register make = .error refusal →
      (∃ cause, refusal = .failed cause ∧ c.terminal = some cause) ∨
        refusal = .endless ∧ ∀ id, side.Issues id → c.registry.contains id = true) := by
  constructor
  · intro i d made
    obtain ⟨_, id, ids, registry, found, inserted, rfl, rfl⟩ := register_ok named made
    rw [stream_push rfl rfl, if_pos rfl, named]
    refine ⟨(issues_of_next? h.parity found).1, get?_of_insert? inserted, ?_⟩
    rw [Registry.get?_insert? inserted, if_pos rfl]
  · intro refusal made
    unfold Connection.register at made
    split at made
    next cause terminal =>
      cases made
      exact .inl ⟨cause, rfl, terminal⟩
    · split at made
      next spent =>
        cases made
        refine .inr ⟨rfl, fun id issues => StreamIds.taken_of_next? spent issues.1 ?_⟩
        rw [((side.owns_iff id).mp issues.2).2, h.parity]
      next id ids found =>
        -- The id that was found is free, so that the registry takes the stream.
        have free : c.registry.contains id = false := (StreamIds.next?_ok found).free
        simp [insert?, Registry.insert?, named, free] at made

/-- Streams that are not over have different ids. -/
theorem Sound.id_inj (h : c.Sound) {i j : Nat} (hi : i < c.streams.size)
    (hj : j < c.streams.size) (live : (c.stream i).isOver = false)
    (live' : (c.stream j).isOver = false) (same : (c.stream i).id = (c.stream j).id) : i = j := by
  have first := (h.registered i hi).mpr live
  have second := (h.registered j hj).mpr live'
  rw [same, second] at first
  exact (Option.some.inj first).symm

/-- Whatever the peer and the application do, for however long. A stream that is registered has an
id of 31 bits, other than 0, of the side that asked for it, and no two live streams share an id. A
stream of this end is registered under an id of this side that was free. It fails only with the
cause that ended the connection, and it looks for an id for ever only while every id of this side
is taken. A frame of the peer registers nothing under an id of this side: what is there afterwards
was there before, and is of its kind. -/
theorem History.ids_owned {config : ConnectionConfig} {setup : Option Setup} {now : Duration}
    (history : History (new side config setup now) past c)
    (read : ∀ event ∈ past, event.deed.IsRead) :
    (∀ id i, c.registry.get? id = some i →
      i < c.streams.size ∧ (c.stream i).id = id ∧ ((c.stream i).opener side).Issues id) ∧
    (∀ i j, i < c.streams.size → j < c.streams.size → (c.stream i).isOver = false →
      (c.stream j).isOver = false → (c.stream i).id = (c.stream j).id → i = j) ∧
    (∀ make : UInt32 → Exchange, (∀ id, (make id).id = id) →
      (∀ i d, c.register make = .ok (i, d) → side.Issues (d.stream i).id ∧
        c.registry.get? (d.stream i).id = none ∧ d.registry.get? (d.stream i).id = some i) ∧
      (∀ refusal, c.register make = .error refusal →
        (∃ cause, refusal = .failed cause ∧ c.terminal = some cause) ∨
          refusal = .endless ∧ ∀ id, side.Issues id → c.registry.contains id = true)) ∧
    (∀ keepsItems now bytes frame, Frame.decode bytes = .ok frame →
      ∀ id i, id.toNat % 2 = side.parity →
        (c.dispatch keepsItems now frame).1.registry.get? id = some i →
        c.registry.get? id = some i ∧
          ((c.dispatch keepsItems now frame).1.stream i).kind = (c.stream i).kind) := by
  have start := sound_new side config setup now
  have sound := history.sound start
  have owned := history.owned start (owned_new side config setup now) read
  refine ⟨fun id i held => ?_, fun i j hi hj => sound.id_inj hi hj,
    fun make named => owned.register named,
    fun keepsItems now bytes frame decoded id i own held => ?_⟩
  · obtain ⟨placed, name⟩ := sound.placed held
    exact ⟨placed, name, name ▸ owned.stream i placed⟩
  · have course := dispatch_course sound keepsItems now frame
    have isRead : Deed.IsRead (.handles frame) := by
      intro other same
      cases same
      exact ⟨bytes, decoded⟩
    have before := course.names_of_own (by simp) isRead owned.role own held
    have later := (dispatch_outcome sound keepsItems now frame).later sound
    exact ⟨before, (later.streams i (sound.placed before).1).kind⟩

/-- A client asks for a stream and the server for another, each under an id of its own. A request
of the server under the id that the client would give out next opens nothing, and the client's next
request gets an id that is free. -/
theorem ids_owned_of_intruder :
    let start := new .client {} none 0
    let asked := ((start.requestStream 8 Payload.empty).toOption.map (·.2)).getD start
    let served := (asked.dispatch (fun _ => true) 0 (.payload (.requestStream 2 8 Payload.empty))).1
    let tried := (served.dispatch (fun _ => true) 0 (.payload (.requestStream 3 8 Payload.empty))).1
    Side.client.Issues 1 ∧ (served.stream 0).id = 1 ∧
      Side.server.Issues 2 ∧ (served.stream 1).id = 2 ∧ tried.registry.get? 3 = none ∧
      ∀ i d, served.register Exchange.requesterResponse = .ok (i, d) →
        served.registry.get? (d.stream i).id = none := by
  intro start asked served tried
  have fits : Payload.empty.Fits := by simp [Payload.Fits, Payload.empty]
  have reads (id : UInt32) (stream : IsStreamId id) : ∃ bytes,
      Frame.decode bytes = .ok (.payload (.requestStream id 8 Payload.empty)) :=
    decode_of_landed (landed_requestStream stream (by decide) fits)
  have stream : Does start .asks asked := by
    have made : (start.requestStream 8 Payload.empty).toOption.isSome = true := by decide +kernel
    cases placed : start.requestStream 8 Payload.empty with
    | error cause => simp [placed, Except.toOption] at made
    | ok placing =>
      have eq : asked = placing.2 := by simp [asked, placed, Except.toOption]
      exact eq ▸ .asks (.stream 8 _ placed)
  have request : Does asked (.handles (.payload (.requestStream 2 8 Payload.empty))) served :=
    .handles _ _ _ _
  have law := History.ids_owned ((History.start.step stream).step request) (by
    rintro event member
    simp only [List.nil_append, List.cons_append, List.mem_cons, List.not_mem_nil, or_false]
      at member
    rcases member with rfl | rfl
    · rintro frame ⟨⟩
    · rintro frame ⟨⟩
      exact reads 2 ⟨by decide, by decide⟩)
  have own := law.1 1 0 (by decide +kernel)
  have foreign := law.1 2 1 (by decide +kernel)
  have asks : (served.stream 0).opener .client = .client := by decide +kernel
  have answers : (served.stream 1).opener .client = .server := by decide +kernel
  refine ⟨asks ▸ own.2.2, own.2.1, answers ▸ foreign.2.2, foreign.2.1, ?_, fun i d made =>
    (((law.2.2.1 _ fun _ => rfl).1) i d made).2.1⟩
  obtain ⟨bytes, decoded⟩ := reads 3 ⟨by decide, by decide⟩
  cases held : tried.registry.get? 3 with
  | none => rfl
  | some i =>
    have before := (law.2.2.2 (fun _ => true) 0 bytes _ decoded 3 i (by decide) held).1
    have free : served.registry.get? 3 = none := by decide +kernel
    rw [free] at before
    contradiction

end Connection
end StreamMux
