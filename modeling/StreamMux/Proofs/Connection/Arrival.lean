import StreamMux.Proofs.Connection.Isolation

/-!
# What a frame of the peer does

A frame with another id than that of a stream is apart from it (`dispatch_apart`). A frame with its
id makes the stream that is registered under it take one step, opens a stream if it is a request of
the peer, and does nothing otherwise.
-/
namespace StreamMux.Connection

variable {id : UInt32} {c d : Connection}

/-! ### Frames of other streams -/

theorem Confined.apart {own : UInt32} (h : Confined own c d) (placed : c.Placed)
    (onWire : low31 own = own) (other : own ≠ id) : Apart id c d where
  toGrows := h.toGrows
  same j hj named := h.other placed hj fun same => by
    rw [same, onWire] at named
    exact other named
  fresh j past bound := by
    rw [h.fresh j past bound, onWire]
    exact other
  registry := h.registry id other.symm
  waiting := by
    obtain ⟨added, ids, eq⟩ := h.queue
    refine ⟨_, (congrArg (·.normal.toList) eq).trans (toList_foldl_enqueue added c.queue), ?_⟩
    intro f hf
    split at hf
    · rw [ids f hf, onWire]
      exact other
    · simp at hf

theorem Untouched.apart (h : Untouched c d) (id : UInt32) : Apart id c d where
  toGrows := h.toGrows
  same j _ _ := by rw [stream, stream, h.streams]
  fresh j past bound := by
    rw [h.streams] at bound
    exact absurd bound (Nat.not_lt_of_le past)
  registry := by rw [h.registry]
  waiting := ⟨[], (congrArg Fifo.toList h.normal).trans (List.append_nil _).symm, by simp⟩

/-- A frame after which the connection goes on does not end it. -/
theorem isClosing_of_live {keepsItems : Payload → Bool} {now : Duration} {frame : Frame}
    (live : (c.dispatch keepsItems now frame).1.isActive = true) : frame.isClosing = false := by
  cases frame with
  | error own code message =>
    refine Bool.eq_false_iff.mpr fun closing => ?_
    unfold dispatch at live
    dsimp only at live
    rw [if_pos (by simpa [Frame.isClosing] using closing), isActive_teardown] at live
    contradiction
  | _ => rfl

/-- A frame that does not end the connection, and has another id. -/
theorem dispatch_apart (placed : c.Placed) (keepsItems : Payload → Bool) (now : Duration)
    {frame : Frame} (onWire : low31 frame.id = frame.id) (other : frame.id ≠ id)
    (live : (c.dispatch keepsItems now frame).1.isActive = true) :
    Apart id c (c.dispatch keepsItems now frame).1 ∧
      ∀ work, (c.dispatch keepsItems now frame).2 = some work →
        ∀ i, work.place? = some i → (c.dispatch keepsItems now frame).1.Beside id i := by
  cases general : frame.isGeneral with
  | true =>
    obtain ⟨untouched, none⟩ := dispatch_untouched c keepsItems now general
    exact ⟨untouched.apart id, fun work started i place => by simp [none work started] at place⟩
  | false =>
    obtain ⟨confined, starts⟩ :=
      dispatch_confined placed keepsItems now general (isClosing_of_live live)
    refine ⟨confined.apart placed onWire other, fun work started i place => ?_⟩
    obtain ⟨j, place', bound, named⟩ := starts work started
    obtain rfl : i = j := Option.some.inj (place.symm.trans place')
    refine ⟨bound, ?_⟩
    rw [named, onWire]
    exact other

/-! ### Frames of the stream itself -/

/-- A frame takes a stream from one state to another. -/
inductive Takes (s t : Exchange) : Frame → Prop
  | payload {f : PayloadFrame} (plain : f.type = .payload) (named : f.id = s.id)
      (received : ∀ uptake, s.receive uptake f = { stream := t }) : Takes s t (.payload f)
  | requestN {n : UInt32} (granted : t = s.grant n.toNat) : Takes s t (.requestN s.id n)
  | error {code : ErrorCode} {message : String}
      (failed : t = s.fail (.ofErrorFrame code message)) : Takes s t (.error s.id code message)

variable {i : Nat} {s t : Exchange} (keepsItems : Payload → Bool) (now : Duration)

theorem Holds.get? (h : c.Holds id i s) (goes : s.isOver = false) :
    c.registry.get? id = some i := by
  rw [h.registered, goes, if_neg Bool.false_ne_true]

/-- A stream that goes on takes a frame of its peer. -/
theorem dispatch_takes (h : c.Holds id i s) (nonzero : id ≠ 0) (goes : s.isOver = false)
    {frame : Frame} (takes : Takes s t frame) :
    c.dispatch keepsItems now frame = (c.commit i t [], none) := by
  have found := h.get? goes
  cases takes with
  | @payload f plain named received =>
    unfold dispatch
    dsimp only
    rw [named, h.named, found]
    dsimp only
    rw [plain, if_neg (by decide), receive, h.stream, received]
    rfl
  | requestN granted =>
    unfold dispatch
    dsimp only
    rw [h.named, stepRegistered, found]
    dsimp only
    rw [step, h.stream, granted]
  | error failed =>
    unfold dispatch
    dsimp only
    rw [h.named, if_neg nonzero, stepRegistered, found]
    dsimp only
    rw [step, h.stream, failed]

/-- More credit comes for a stream that is over. -/
theorem dispatch_requestN_late (gone : c.registry.get? id = none) (n : UInt32) :
    c.dispatch keepsItems now (.requestN id n) = (c, none) := by
  unfold dispatch
  dsimp only
  rw [stepRegistered, gone]

/-- A request under an id that no stream has opens one. -/
theorem dispatch_places (lacks : c.Lacks id) (foreign : c.side.owns id = false) {f : PayloadFrame}
    {kind : StreamKind} (named : f.id = id) (opens : StreamKind.ofRequest? f.type = some kind) :
    ∃ d, c.Grows d ∧ d.Holds id c.streams.size (.responder id kind f.initial) ∧
      d.waiting = c.waiting ∧ d.config = c.config ∧ d.queue = c.queue ∧
      c.dispatch keepsItems now (.payload f) = d.receive keepsItems c.streams.size f := by
  obtain ⟨registry, inserted⟩ :
      ∃ registry, c.registry.insert? id c.streams.size = some registry := by
    rw [Registry.insert?, Registry.contains, lacks.free]
    exact ⟨_, rfl⟩
  let s := Exchange.responder id kind f.initial
  have opened : c.insert? s =
      some (c.streams.size, { c with registry, streams := c.streams.push s }) := by
    rw [insert?, show s.id = id from rfl, inserted, Option.map_some]
  have goes : s.isOver = false := by cases kind <;> rfl
  refine ⟨{ c with registry, streams := c.streams.push s }, grows_insert (t := s) inserted rfl,
    Lacks.insert (t := s) lacks inserted goes, rfl, rfl, rfl, ?_⟩
  unfold dispatch
  dsimp only
  rw [named, lacks.free]
  dsimp only
  rw [accept, opens]
  dsimp only
  rw [named, foreign, if_neg Bool.false_ne_true,
    show c.insert? (.responder id kind f.initial) = _ from opened]

theorem server_foreign (server : c.side = .server) (odd : id.toNat % 2 = 1) :
    c.side.owns id = false := by
  have odd : id % 2 ≠ 0 := fun even => by
    have even := congrArg UInt32.toNat even
    rw [UInt32.toNat_mod] at even
    change id.toNat % 2 = 0 at even
    omega
  rw [server, Side.owns]
  simp [odd]

/-- A request of the peer opens a stream, and starts the work for it. -/
theorem dispatch_request (lacks : c.Lacks id) (server : c.side = .server)
    (odd : id.toNat % 2 = 1) {f : PayloadFrame} {kind : StreamKind} {payload : Payload}
    (asks : f.id = id) (opens : StreamKind.ofRequest? f.type = some kind)
    (received : (Exchange.responder id kind f.initial).receive
      { batch := c.config.prefetch, keepsItems } f = { stream := t, started := some payload })
    (named : t.id = id) :
    ∃ d, c.dispatch keepsItems now (.payload f) =
        (d, Work.ofRequest? kind c.streams.size payload) ∧
      c.Grows d ∧ d.Holds id c.streams.size t ∧ d.waiting = c.waiting := by
  obtain ⟨d, placing, holds, waiting, config, _, dispatched⟩ :=
    dispatch_places keepsItems now lacks (server_foreign server odd) asks opens
  have committed := grows_commit d c.streams.size [] (t := t) (by rw [holds.stream, named]; rfl)
  have goes : (Exchange.responder id kind f.initial).isOver = false := by cases kind <;> rfl
  refine ⟨_, ?_, placing.trans committed, holds.commit named (by simp [goes]), ?_⟩
  · rw [dispatched, receive, holds.stream, config, received]
    rfl
  · rw [waiting_commit]
    simp [waiting]

end StreamMux.Connection
