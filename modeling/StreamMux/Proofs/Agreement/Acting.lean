import StreamMux.Proofs.Agreement.Hearing
import StreamMux.Proofs.Connection.History

/-!
# What an end does of its own accord

Between two frames of its peer an end asks for streams, pings, and makes moves of its streams
(`Connection.Acts`). Seen from one id, such a deed is about other streams, or it is a move of the
stream of the id (`Acts.about`), unless it asks for a stream under this very id (`Asks.opens`).
-/
namespace StreamMux.Connection

variable {c d e : Connection} {id : UInt32} {i : Nat}

/-- One thing that an end does of its own accord. -/
inductive Acts (c : Connection) : Connection → Prop
  | asks {d : Connection} (made : c.Asks d) : Acts c d
  | serves {d : Connection} (made : c.Serves d) : Acts c d
  | moves (i : Nat) (m : Exchange.Move) (own : m.isLocal = true) (placed : i < c.streams.size)
      (fits : m.Fits (c.stream i)) (fair : m.IsFair (c.stream i)) :
      Acts c (c.stepWriting i (m.apply ·))

/-- A channel keeps its consumer until that has come to the end, or nothing more is sent. -/
def Keeps (c d : Connection) (i : Nat) : Prop :=
  i < d.streams.size → (d.stream i).kind = .requesterChannel → (d.stream i).consumer = none →
    i < c.streams.size ∧ (c.stream i).Dispensable

theorem Acts.toStep (acts : c.Acts d) : Step c d := by
  cases acts with
  | asks made => exact .asks made
  | serves made => exact .serves made
  | moves i m own placed fits fair => exact .act c i m own placed fits

/-! ### Asking for a stream -/

/-- A stream is placed and registered under the next free id, and its request enqueued. -/
theorem register_opens {make : UInt32 → Exchange} (frames : List Frame)
    (named : ∀ id, (make id).id = id) (goes : ∀ id, (make id).isOver = false)
    (registered : c.register make = .ok (i, e))
    (eq : d = { e with queue := frames.foldl FrameQueue.enqueue e.queue }) :
    ∃ own, (e.stream i).id = own ∧ c.spent d = [own] ∧ own ≠ 0 ∧ low31 own = own ∧
      own.toNat % 2 = c.ids.counter.toNat % 2 ∧ c.Grows d ∧
      d.streams = c.streams.push (make own) ∧
      (c.Lacks own → d.Holds own c.streams.size (make own)) ∧
      d.waiting = c.waiting ++ if c.queue.accepts then frames else [] := by
  obtain ⟨own, spends, nonzero, low, odd, grows, name, rfl, streams, holds, waiting⟩ :=
    register_holds named goes registered
  subst eq
  have writing : e.Grows { e with queue := frames.foldl FrameQueue.enqueue e.queue } :=
    { side := rfl, config := rfl, terminal := rfl, accepts := accepts_foldl_enqueue _ _
      parity := rfl, placed := fun h => h, size := Nat.le_refl _, names := fun _ _ => rfl
      priority := ⟨[], by rw [List.append_nil]; exact congrArg _ (priority_foldl_enqueue _ _),
        by simp⟩ }
  refine ⟨own, name, (spent_congr rfl).trans spends, nonzero, low, odd, grows.trans writing,
    streams, fun lacks => ?_, ?_⟩
  · have holds := holds lacks
    exact ⟨holds.bound, holds.stream, holds.named, holds.only, holds.registered⟩
  · rw [← waiting, ← grows.accepts]
    exact toList_foldl_enqueue frames e.queue

/-- What it comes to that this end asks for a stream. -/
structure Opens (c d : Connection) (own : UInt32) (t : Exchange) (frames : List Frame) : Prop where
  born : Born t frames
  named : t.id = own
  requester : t.kind.isRequester = true
  spent : c.spent d = [own]
  nonzero : own ≠ 0
  wire : low31 own = own
  parity : own.toNat % 2 = c.ids.counter.toNat % 2
  grows : c.Grows d
  streams : d.streams = c.streams.push t
  holds : c.Lacks own → d.Holds own c.streams.size t
  waiting : d.waiting = c.waiting ++ if c.queue.accepts then frames else []

theorem Asks.opens (made : c.Asks d) : ∃ own t frames, Opens c d own t frames := by
  cases made with
  | @response payload i made =>
    unfold requestResponse at made
    obtain ⟨⟨_, e⟩, registered, eq⟩ := bind_ok made
    cases eq
    obtain ⟨_, rfl, spent, nonzero, wire, parity, grows, streams, holds, waiting⟩ :=
      register_opens [.payload (.requestResponse (e.stream i).id payload)] (fun _ => rfl)
        (fun _ => rfl) registered rfl
    exact ⟨_, _, _, .response _ payload, rfl, rfl, spent, nonzero, wire, parity, grows, streams,
      holds, waiting⟩
  | @stream batch payload i made =>
    unfold requestStream at made
    obtain ⟨⟨_, e⟩, registered, eq⟩ := bind_ok made
    cases eq
    obtain ⟨_, rfl, spent, nonzero, wire, parity, grows, streams, holds, waiting⟩ :=
      register_opens [.payload (.requestStream (e.stream i).id batch payload)] (fun _ => rfl)
        (fun _ => rfl) registered rfl
    exact ⟨_, _, _, .stream _ batch payload, rfl, rfl, spent, nonzero, wire, parity, grows, streams,
      holds, waiting⟩
  | channel batch made =>
    obtain ⟨own, _, spent, nonzero, wire, parity, grows, streams, holds, waiting⟩ :=
      register_opens [] (fun _ => rfl) (fun _ => rfl) made rfl
    exact ⟨own, _, _, .channel own batch, rfl, rfl, spent, nonzero, wire, parity, grows, streams,
      holds, waiting⟩

/-! ### Seen from one id -/

/-- The id is not the one that was given out, if any was. -/
theorem Asks.apart (made : c.Asks d) (wire : low31 id = id) (other : id ∉ c.spent d) :
    Apart id c d := by
  cases made with
  | response payload made => exact (requestResponse_apart wire made other).1
  | stream batch payload made => exact (requestStream_apart wire made other).1
  | channel batch made => exact (apart_register wire (fun _ => rfl) made other).1

theorem Serves.apart (made : c.Serves d) (live : d.isActive = true) (other : id ∉ c.spent d) :
    Apart id c d := by
  cases made with
  | metadataPush metadata made => exact metadataPush_apart made
  | fireAndForget payload made => exact fireAndForget_apart made other
  | tick now made =>
    subst made
    exact apart_tick live
  | teardown cause made =>
    rw [made, isActive_teardown] at live
    contradiction
  | terminate cause made =>
    rw [made, isActive_terminate] at live
    contradiction

/-- A move of the stream of an id. -/
structure Stirs (id : UInt32) (c d : Connection) (i : Nat) (m : Exchange.Move) : Prop where
  own : m.isLocal = true
  placed : i < c.streams.size
  named : low31 (c.stream i).id = id
  fits : m.Fits (c.stream i)
  fair : m.IsFair (c.stream i)
  eq : d = c.stepWriting i (m.apply ·)

/-- A deed under no new id is about other streams, or a move of the stream of the id. -/
theorem Acts.about (acts : c.Acts d) (live : d.isActive = true) (wire : low31 id = id)
    (other : id ∉ c.spent d) : Apart id c d ∨ ∃ i m, Stirs id c d i m := by
  cases acts with
  | asks made => exact .inl (made.apart wire other)
  | serves made => exact .inl (made.apart live other)
  | moves i m own placed fits fair =>
    by_cases named : low31 (c.stream i).id = id
    · exact .inr ⟨i, m, own, placed, named, fits, fair, rfl⟩
    · exact .inl (apart_move wire ⟨placed, named⟩ m)

theorem Acts.grows (acts : c.Acts d) (live : d.isActive = true) : c.Grows d := by
  cases acts with
  | asks made =>
    obtain ⟨_, _, _, opens⟩ := made.opens
    exact opens.grows
  | serves made =>
    -- Two ids, of which one at most was given out.
    by_cases first : 1 ∈ c.spent d
    · refine (show Apart 2 c d from made.apart live fun second => ?_).toGrows
      unfold spent at first second
      split at first
      · contradiction
      next moved =>
        rw [if_neg moved, ← List.mem_singleton.mp first] at second
        exact absurd second (by decide)
    · exact (made.apart live first).toGrows
  | moves i m own placed fits fair =>
    exact grows_commit c i _ (m.own (c.stream i)).1

theorem Serves.streams (made : c.Serves d) (h : c.Sound) (live : d.isActive = true) :
    d.streams = c.streams := by
  cases (Does.serves made).course h with
  | quiet streams registry terminal silent => exact streams
  | moved i m placed fits touches eq => cases touches
  | ended cause eq =>
    rcases eq with rfl | rfl
    · rw [isActive_teardown] at live
      contradiction
    · rw [isActive_terminate] at live
      contradiction

/-- There is no new place, or this end has asked for a stream. -/
theorem Acts.places (acts : c.Acts d) (h : c.Sound) (live : d.isActive = true)
    (placed : i < d.streams.size) :
    i < c.streams.size ∨ i = c.streams.size ∧ ∃ own t frames, Opens c d own t frames := by
  cases acts with
  | asks made =>
    obtain ⟨own, t, frames, opens⟩ := made.opens
    rw [opens.streams, Array.size_push] at placed
    by_cases last : i = c.streams.size
    · exact .inr ⟨last, own, t, frames, opens⟩
    · exact .inl (by omega)
  | serves made => exact .inl (made.streams h live ▸ placed)
  | moves i m own at_place fits fair =>
    rw [stepWriting, size_commit] at placed
    exact .inl placed

/-! ### Whole frames -/

/-- Frames were enqueued, none of them a fragment. -/
def AddsWhole (c d : Connection) : Prop :=
  ∃ added, d.waiting = c.waiting ++ added ∧ ∀ f ∈ added, f.IsWhole

theorem AddsWhole.of_same (same : d.queue.normal = c.queue.normal) : AddsWhole c d :=
  ⟨[], by rw [List.append_nil]; exact congrArg Fifo.toList same, by simp⟩

theorem addsWhole_commit (c : Connection) (i : Nat) (t : Exchange) {frames : List Frame}
    (whole : ∀ f ∈ frames, f.IsWhole) : AddsWhole c (c.commit i t frames) := by
  refine ⟨_, waiting_commit c i t frames, fun f member => ?_⟩
  split at member
  · exact whole f member
  · contradiction

theorem Born.whole {t : Exchange} {frames : List Frame} (born : Born t frames) :
    ∀ f ∈ frames, f.IsWhole := by
  have request {f : PayloadFrame} (plain : f.follows = false) (opens : f.type.opensStream = true) :
      ∀ g ∈ [Frame.payload f], g.IsWhole := by
    intro g member
    rw [List.mem_singleton.mp member]
    exact ⟨plain, .inl opens⟩
  cases born with
  | response id payload => exact request rfl rfl
  | stream id batch payload => exact request rfl rfl
  | channel id batch => simp
  | responder id initial answers effect => exact effect.writes.whole

theorem Acts.whole (acts : c.Acts d) (h : c.Sound) (live : d.isActive = true) : AddsWhole c d := by
  cases acts with
  | asks made =>
    obtain ⟨_, _, frames, opens⟩ := made.opens
    refine ⟨_, opens.waiting, fun f member => ?_⟩
    split at member
    · exact opens.born.whole f member
    · contradiction
  | serves made =>
    cases made with
    | metadataPush metadata made =>
      unfold metadataPush at made
      split at made
      · contradiction
      · split at made
        · cases made
          exact .of_same (normal_enqueuePriority _ _)
        · contradiction
    | fireAndForget payload made =>
      unfold fireAndForget at made
      split at made
      · contradiction
      · split at made
        · contradiction
        · split at made
          next accepts =>
            cases made
            refine ⟨_, toList_enqueue c.queue _, fun f member => ?_⟩
            rw [if_pos accepts, List.mem_singleton] at member
            rw [member]
            exact ⟨rfl, .inl rfl⟩
          · contradiction
    | tick now made =>
      subst made
      unfold tick at live ⊢
      split at live
      · rw [isActive_terminate] at live
        contradiction
      next heard =>
        rw [if_neg heard]
        exact .of_same (normal_enqueuePriority _ _)
    | teardown cause made =>
      rw [made, isActive_teardown] at live
      contradiction
    | terminate cause made =>
      rw [made, isActive_terminate] at live
      contradiction
  | moves i m own placed fits fair =>
    exact addsWhole_commit c i _ (m.effect (h.coherent i placed) fits).writes.whole

theorem dispatch_whole (h : c.Sound) (keepsItems : Payload → Bool) (now : Duration) (frame : Frame)
    (live : (c.dispatch keepsItems now frame).1.isActive = true) :
    AddsWhole c (c.dispatch keepsItems now frame).1 := by
  have still : AddsWhole c c := .of_same rfl
  have stepped (id : UInt32) (f : Exchange → Exchange) :
      AddsWhole c (c.stepRegistered id f) := by
    unfold stepRegistered
    split
    · exact addsWhole_commit c _ _ (by simp)
    · exact still
  cases frame with
  | keepAlive respond position data =>
    change AddsWhole c (c.hear now respond)
    unfold hear
    split
    · exact .of_same (normal_enqueuePriority c.queue _)
    · exact .of_same rfl
  | metadataPush metadata => exact still
  | setup s => exact still
  | lease ttl requests metadata => exact still
  | error id code message =>
    unfold dispatch at live ⊢
    dsimp only at live ⊢
    split at live
    · rw [isActive_teardown] at live
      contradiction
    next stream =>
      rw [if_neg stream]
      exact stepped id _
  | requestN id n => exact stepped id _
  | cancel id => exact stepped id _
  | payload f =>
    unfold dispatch
    dsimp only
    split
    next i found =>
      split
      · exact still
      · have effect := Exchange.receive_effect (h.coherent i (h.placed found).1)
          { batch := c.config.prefetch, keepsItems } f
        exact addsWhole_commit c i _ effect.writes.whole
    · unfold accept
      split
      · exact still
      next kind opens =>
        split
        · exact still
        · split
          · exact still
          next i d opened =>
            obtain ⟨registry, inserted, rfl, rfl⟩ := insert?_ok opened
            have effect := Exchange.receive_effect
              (responder_coherent f.id f.initial (ofRequest?_answers opens))
              { batch := c.config.prefetch, keepsItems } f
            rw [receive, stream_push rfl rfl, if_pos rfl]
            exact addsWhole_commit { c with
              registry, streams := c.streams.push (.responder f.id kind f.initial) }
              _ _ effect.writes.whole

end StreamMux.Connection
